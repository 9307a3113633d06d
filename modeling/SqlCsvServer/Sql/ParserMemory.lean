import SqlCsvServer.Sql.ParserLanguage

/-!
# The parser in memory

The functions of `sql/parser.c` once more, now on the index into the token array.
A token outside of the array has no outcome.
-/

namespace SqlCsvServer
namespace Sql

open Foundation
open Common

/-!
## The functions on the array
-/

abbrev ParseAt (α : Type) := StateT Nat (ExceptT Bytes Option) α

def failAt (α : Type) (text : Bytes) : ParseAt α :=
  fun _ => some (.error text)

def advanceAt : ParseAt Unit := fun index => some (.ok ((), index + 1))

section Memory

variable (tokens : List Token)

/-- `current_token`. -/
def currentTokenAt : ParseAt Token := fun index =>
  (tokens[index]?).map fun token => .ok (token, index)

/-- `set_expected_token_error` and return 0. -/
def failExpectedAt (α : Type) (expected : Bytes) : ParseAt α := do
  let token ← currentTokenAt tokens
  failAt α (expectedTokenError expected [token])

/-- `match_type`. -/
def matchTypeAt (type : TokenType) : ParseAt Bool := do
  let token ← currentTokenAt tokens
  if token.type = type then
    advanceAt
    return true
  else return false

/-- `expect_type`. -/
def expectTypeAt (type : TokenType) (text : String) : ParseAt Unit := do
  if ← matchTypeAt tokens type then return ()
  else failExpectedAt tokens Unit (ascii text)

/-- `expect_keyword`. -/
def expectKeywordAt (keyword : String) : ParseAt Unit := do
  let token ← currentTokenAt tokens
  if isKeyword (ascii keyword) token then advanceAt
  else failExpectedAt tokens Unit (snprintf 64 (ascii "keyword " ++ ascii keyword))

/-- `parse_identifier`. -/
def parseIdentifierAt : ParseAt Bytes := do
  let token ← currentTokenAt tokens
  if token.type = .identifier then
    advanceAt
    return token.text
  else failExpectedAt tokens Bytes (ascii "identifier")

def parseValueAt (expected : String) : ParseAt Bytes := do
  let token ← currentTokenAt tokens
  if isValueType token.type then
    advanceAt
    return token.text
  else failExpectedAt tokens Bytes (ascii expected)

def parseMoreItemsAt (item : ParseAt Bytes) : Nat -> ParseAt (List Bytes)
  | 0 => fun _ => none
  | fuel + 1 => do
      if ← matchTypeAt tokens .comma then
        let value ← item
        let values ← parseMoreItemsAt item fuel
        return value :: values
      else return []

def parseItemListAt (item : ParseAt Bytes) : ParseAt (List Bytes) := do
  let value ← item
  let values ← parseMoreItemsAt tokens item tokens.length
  return value :: values

/-- `parse_identifier_list`. -/
def parseIdentifierListAt : ParseAt (List Bytes) :=
  parseItemListAt tokens (parseIdentifierAt tokens)

/-- `parse_value_list`. -/
def parseValueListAt : ParseAt (List Bytes) :=
  parseItemListAt tokens (parseValueAt tokens "SQL value")

/-- `parse_condition_value`. -/
def parseConditionValueAt : ParseAt Bytes :=
  parseValueAt tokens "SQL value in WHERE clause"

/-- `reject_unsupported_where_connector`. -/
def rejectUnsupportedWhereConnectorAt : ParseAt Unit := do
  let token ← currentTokenAt tokens
  if isKeyword (ascii "AND") token ∨ isKeyword (ascii "OR") token then
    failAt Unit (message
      (ascii "AND/OR conditions are not supported; " ++
        ascii "only a single WHERE condition is allowed, got IDENTIFIER(\"" ++
        token.text ++ ascii "\") at position " ++ decimalNat token.position))
  else return ()

/-- `parse_insert`. -/
def parseInsertAt : ParseAt InsertStatement := do
  expectKeywordAt tokens "INSERT"
  expectKeywordAt tokens "INTO"
  let tableName ← parseIdentifierAt tokens
  expectTypeAt tokens .lparen "expected '(' after table name"
  let columns ← parseIdentifierListAt tokens
  expectTypeAt tokens .rparen "expected ')' after column list"
  expectKeywordAt tokens "VALUES"
  expectTypeAt tokens .lparen "expected '(' after VALUES"
  let values ← parseValueListAt tokens
  expectTypeAt tokens .rparen "expected ')' after value list"
  return { tableName := tableName, columns := columns, values := values }

/-- The part of `parse_select` between SELECT and FROM. -/
def parseSelectColumnsAt : ParseAt (Bool × List Bytes) := do
  if ← matchTypeAt tokens .star then return (true, [])
  else
    let columns ← parseIdentifierListAt tokens
    return (false, columns)

/-- The part of `parse_select` from WHERE on. -/
def parseConditionAt : ParseAt (Option WhereCondition) := do
  let token ← currentTokenAt tokens
  if isKeyword (ascii "WHERE") token then
    advanceAt
    let whereColumn ← parseIdentifierAt tokens
    expectTypeAt tokens .equals "expected '=' in WHERE clause"
    let whereValue ← parseConditionValueAt tokens
    rejectUnsupportedWhereConnectorAt tokens
    return some { whereColumn := whereColumn, whereValue := whereValue }
  else return none

/-- `parse_select`. -/
def parseSelectAt : ParseAt SelectStatement := do
  expectKeywordAt tokens "SELECT"
  let (selectAll, columns) ← parseSelectColumnsAt tokens
  expectKeywordAt tokens "FROM"
  let tableName ← parseIdentifierAt tokens
  let condition ← parseConditionAt tokens
  return {
    tableName := tableName
    columns := columns
    selectAll := selectAll
    condition := condition }

/-- The branch on the first token in `parse_statement`. -/
def parseBodyAt : ParseAt Statement := do
  let token ← currentTokenAt tokens
  if isKeyword (ascii "INSERT") token then
    return .insertStatement (← parseInsertAt tokens)
  else if isKeyword (ascii "SELECT") token then
    return .selectStatement (← parseSelectAt tokens)
  else
    failAt Statement (message
      (ascii "only INSERT and SELECT are supported, got " ++ describeToken token))

/-- `parse_statement` as a parser function. -/
def parseWholeAt : ParseAt Statement := do
  let statement ← parseBodyAt tokens
  expectTypeAt tokens .semicolon "expected ';' at end of SQL statement"
  expectTypeAt tokens .end "unexpected tokens after SQL statement"
  return statement

/-- `parse_statement` on a token array. -/
def parseStatementAt : Option (Except Bytes Statement) :=
  Option.map (Except.map Prod.fst) (parseWholeAt tokens 0)

end Memory

/-!
## Inside of the array
-/

theorem EndsOnce.at_index {tokens : List Token} (h : EndsOnce tokens) :
    forall {index : Nat}, index < tokens.length ->
      exists token, tokens[index]? = some token ∧
        tokens.drop index = token :: tokens.drop (index + 1) ∧
          (token.type ≠ .end -> index + 1 < tokens.length) := by
  induction h with
  | @last token hend =>
      intro index hindex
      have hzero : index = 0 := Nat.lt_one_iff.mp hindex
      subst hzero
      exact ⟨token, rfl, rfl, fun hother => absurd hend hother⟩
  | @cons token tokens hother hrest ih =>
      intro index hindex
      cases index with
      | zero =>
          refine ⟨token, rfl, rfl, fun _ => ?_⟩
          cases hrest with
          | last => exact Nat.lt_succ_self 1
          | cons => simp
      | succ index =>
          rcases ih (Nat.lt_of_succ_lt_succ hindex) with ⟨found, hfound, hdrop, hmore⟩
          exact ⟨found, hfound, hdrop, fun hne => Nat.succ_lt_succ (hmore hne)⟩

inductive Agrees {α : Type} (tokens : List Token) (index : Nat) :
    Option (Except Bytes (α × Nat)) -> Except Bytes (α × List Token) -> Prop where
  | error (text : Bytes) : Agrees tokens index (some (.error text)) (.error text)
  | ok (value : α) {next : Nat} (hmoved : index ≤ next) (hinside : next < tokens.length) :
      Agrees tokens index (some (.ok (value, next))) (.ok (value, tokens.drop next))

def Follows {α : Type} (tokens : List Token) (before : Token -> Prop) (parseAt : ParseAt α)
    (parse : Parse α) : Prop :=
  forall index, index < tokens.length -> before (currentToken (tokens.drop index)) ->
    Agrees tokens index (parseAt index) (parse (tokens.drop index))

section Following

variable {α β : Type} {tokens : List Token} {before : Token -> Prop}

theorem parseAt_bind (first : ParseAt α) (next : α -> ParseAt β) (index : Nat) :
    (first >>= next) index =
      Option.bind (first index) fun
        | .error text => some (.error text)
        | .ok result => next result.1 result.2 := by
  change Option.bind (first index) _ = Option.bind (first index) _
  congr 1
  funext result
  cases result <;> rfl

theorem follows_pure (value : α) : Follows tokens before (pure value) (pure value) :=
  fun _ hindex _ => .ok value (Nat.le_refl _) hindex

theorem Agrees.earlier {index later : Nat} {result : Option (Except Bytes (α × Nat))}
    {outcome : Except Bytes (α × List Token)} (h : Agrees tokens later result outcome)
    (hlater : index ≤ later) : Agrees tokens index result outcome := by
  cases h with
  | error text => exact .error text
  | ok value hmoved hinside => exact .ok value (Nat.le_trans hlater hmoved) hinside

theorem Follows.bind {first : ParseAt α} {second : α -> ParseAt β} {parse : Parse α}
    {parseNext : α -> Parse β} (hfirst : Follows tokens before first parse)
    (hsecond : forall value,
      Follows tokens anyToken (second value) (parseNext value)) :
    Follows tokens before (first >>= second) (parse >>= parseNext) := by
  intro index hindex hbefore
  have hagrees := hfirst index hindex hbefore
  rw [parseAt_bind, parse_bind]
  generalize first index = result at hagrees ⊢
  generalize parse (tokens.drop index) = outcome at hagrees ⊢
  cases hagrees with
  | error text => exact .error text
  | @ok value next hmoved hinside =>
      exact (hsecond value next hinside trivial).earlier hmoved

theorem Follows.look (hends : EndsOnce tokens) {second : Token -> ParseAt α}
    {parse : List Token -> Parse α}
    (h : forall token rest, before token ->
      Follows tokens (fun found => found = token) (second token)
        (parse (token :: rest))) :
    Follows tokens before (currentTokenAt tokens >>= second) (get >>= parse) := by
  intro index hindex hbefore
  rcases hends.at_index hindex with ⟨token, hget, hdrop, _⟩
  rw [hdrop, currentToken_cons] at hbefore
  have hnext := h token (tokens.drop (index + 1)) hbefore index hindex
    (by rw [hdrop, currentToken_cons])
  rw [parseAt_bind, parse_bind, parse_get]
  unfold currentTokenAt
  rw [hget]
  rw [hdrop] at hnext ⊢
  exact hnext

theorem follows_advance (hends : EndsOnce tokens) {token : Token}
    (htoken : token.type ≠ .end) :
    Follows tokens (fun found => found = token) advanceAt advance := by
  intro index hindex hbefore
  rcases hends.at_index hindex with ⟨found, _, hdrop, hmore⟩
  rw [hdrop, currentToken_cons] at hbefore
  rw [hdrop, advance_cons]
  exact .ok () (Nat.le_succ _) (hmore (hbefore ▸ htoken))

theorem follows_failExpected (hends : EndsOnce tokens) (expected : Bytes) :
    Follows tokens before (failExpectedAt tokens α expected) (failExpected α expected) := by
  intro index hindex _
  rcases hends.at_index hindex with ⟨found, hget, hdrop, _⟩
  have hat : failExpectedAt tokens α expected index =
      some (.error (expectedTokenError expected [found])) := by
    unfold failExpectedAt currentTokenAt
    rw [parseAt_bind, hget]
    rfl
  rw [hat, hdrop]
  exact .error _

theorem Follows.weaken {first : ParseAt α} {parse : Parse α}
    (h : Follows tokens anyToken first parse) : Follows tokens before first parse :=
  fun index hindex _ => h index hindex trivial

end Following

/-!
## The functions one by one
-/

section Functions

variable {tokens : List Token} {before : Token -> Prop} (hends : EndsOnce tokens)
include hends

theorem follows_matchType {type : TokenType} (htype : type ≠ .end) :
    Follows tokens before (matchTypeAt tokens type) (matchType type) := by
  apply Follows.look hends
  intro token rest _
  by_cases hsame : token.type = type
  · have hother : token.type ≠ .end := hsame ▸ htype
    rw [currentToken_cons, if_pos hsame, if_pos hsame]
    exact (follows_advance hends hother).bind fun _ => follows_pure true
  · rw [currentToken_cons, if_neg hsame, if_neg hsame]
    exact follows_pure false

theorem follows_expectType {type : TokenType} (htype : type ≠ .end) (text : String) :
    Follows tokens before (expectTypeAt tokens type text) (expectType type text) := by
  apply (follows_matchType hends htype).bind
  intro matched
  cases matched with
  | true => exact follows_pure ()
  | false => exact follows_failExpected hends (ascii text)

theorem follows_expectKeyword (keyword : String) :
    Follows tokens before (expectKeywordAt tokens keyword) (expectKeyword keyword) := by
  apply Follows.look hends
  intro token rest _
  rw [currentToken_cons]
  cases hkeyword : isKeyword (ascii keyword) token with
  | true =>
      apply follows_advance hends
      rw [isKeyword_type hkeyword]
      exact TokenType.noConfusion
  | false => exact follows_failExpected hends _

theorem follows_parseIdentifier :
    Follows tokens before (parseIdentifierAt tokens) parseIdentifier := by
  apply Follows.look hends
  intro token rest _
  by_cases hidentifier : token.type = .identifier
  · have hother : token.type ≠ .end := by
      rw [hidentifier]
      exact TokenType.noConfusion
    rw [currentToken_cons, if_pos hidentifier, if_pos hidentifier]
    exact (follows_advance hends hother).bind fun _ => follows_pure token.text
  · rw [currentToken_cons, if_neg hidentifier, if_neg hidentifier]
    exact follows_failExpected hends _

theorem follows_parseValue (expected : String) :
    Follows tokens before (parseValueAt tokens expected) (parseValue expected) := by
  apply Follows.look hends
  intro token rest _
  cases hvalue : isValueType token.type with
  | true =>
      have hother : token.type ≠ .end := by
        intro hend
        rw [hend] at hvalue
        cases hvalue
      simp only [currentToken_cons, hvalue, if_true]
      exact (follows_advance hends hother).bind fun _ => follows_pure token.text
  | false =>
      simp only [currentToken_cons, hvalue, Bool.false_eq_true, if_false]
      exact follows_failExpected hends _

theorem parseMoreItems_agrees {item : ParseAt Bytes} {parse : Parse Bytes}
    (hitem : Follows tokens anyToken item parse) {rounds : Nat} :
    forall {fuel index : Nat}, index < tokens.length -> tokens.length ≤ index + rounds ->
      tokens.length ≤ index + fuel ->
        Agrees tokens index (parseMoreItemsAt tokens item rounds index)
          (parseMoreItems parse fuel (tokens.drop index)) := by
  induction rounds with
  | zero => exact fun hindex hrounds _ => absurd hindex (Nat.not_lt.mpr hrounds)
  | succ rounds ih =>
      intro fuel index hindex hrounds hfuel
      cases fuel with
      | zero => exact absurd hindex (Nat.not_lt.mpr hfuel)
      | succ fuel =>
          rcases hends.at_index hindex with ⟨token, hget, hdrop, hmore⟩
          unfold parseMoreItemsAt parseMoreItems
          by_cases hcomma : token.type = .comma
          · have hmatchAt : matchTypeAt tokens .comma index =
                some (.ok (true, index + 1)) := by
              unfold matchTypeAt currentTokenAt
              rw [parseAt_bind, hget]
              simp [hcomma]
              rfl
            have hinside := hmore (by rw [hcomma]; exact TokenType.noConfusion)
            have hagrees := hitem (index + 1) hinside trivial
            rw [parseAt_bind, parse_bind, hmatchAt, hdrop, matchType_same hcomma]
            simp only [Option.bind_some, if_true]
            rw [parseAt_bind, parse_bind]
            generalize item (index + 1) = result at hagrees ⊢
            generalize parse (tokens.drop (index + 1)) = outcome at hagrees ⊢
            cases hagrees with
            | error text => exact .error text
            | @ok value next hmoved hthere =>
                have hrest := @ih fuel next hthere (by omega) (by omega)
                simp only [Option.bind_some]
                rw [parseAt_bind, parse_bind]
                generalize parseMoreItemsAt tokens item rounds next = result at hrest ⊢
                generalize parseMoreItems parse fuel (tokens.drop next) = outcome
                  at hrest ⊢
                cases hrest with
                | error text => exact .error text
                | ok values hlater hthere => exact .ok _ (by omega) hthere
          · have hmatchAt : matchTypeAt tokens .comma index =
                some (.ok (false, index)) := by
              unfold matchTypeAt currentTokenAt
              rw [parseAt_bind, hget]
              simp [hcomma]
              rfl
            rw [parseAt_bind, parse_bind, hmatchAt, hdrop, matchType_other hcomma, ← hdrop]
            exact .ok [] (Nat.le_refl _) hindex

theorem follows_parseItemList {item : ParseAt Bytes} {parse : Parse Bytes}
    (hitem : Follows tokens anyToken item parse) :
    Follows tokens before (parseItemListAt tokens item) (parseItemList parse) := by
  apply hitem.weaken.bind
  intro value index hindex _
  have hmore := @parseMoreItems_agrees tokens hends item parse hitem tokens.length
    (tokens.drop index).length index hindex (Nat.le_add_left _ _)
    (by rw [List.length_drop]; omega)
  rw [parseAt_bind, parse_bind, parse_get]
  simp only []
  rw [parse_bind]
  generalize parseMoreItemsAt tokens item tokens.length index = result at hmore ⊢
  generalize parseMoreItems parse (tokens.drop index).length (tokens.drop index) = outcome
    at hmore ⊢
  cases hmore with
  | error text => exact .error text
  | ok values hmoved hthere => exact .ok _ hmoved hthere

theorem follows_parseIdentifierList :
    Follows tokens before (parseIdentifierListAt tokens) parseIdentifierList :=
  follows_parseItemList hends (follows_parseIdentifier hends)

theorem follows_parseValueList :
    Follows tokens before (parseValueListAt tokens) parseValueList :=
  follows_parseItemList hends (follows_parseValue hends _)

theorem follows_rejectUnsupportedWhereConnector :
    Follows tokens before (rejectUnsupportedWhereConnectorAt tokens)
      rejectUnsupportedWhereConnector := by
  intro index hindex _
  rcases hends.at_index hindex with ⟨token, hget, hdrop, _⟩
  unfold rejectUnsupportedWhereConnectorAt rejectUnsupportedWhereConnector currentTokenAt
  rw [parseAt_bind, hget]
  simp only [Option.map_some, Option.bind_some, hdrop, currentToken_cons]
  split
  · exact .error _
  · rw [← hdrop]
    exact .ok () (Nat.le_refl _) hindex

theorem follows_parseInsert :
    Follows tokens before (parseInsertAt tokens) parseInsert := by
  have htype : forall {type : TokenType} {text : String}, type ≠ .end ->
      Follows tokens anyToken (expectTypeAt tokens type text) (expectType type text) :=
    fun hne => follows_expectType hends hne _
  apply (follows_expectKeyword hends _).bind; intro _
  apply (follows_expectKeyword hends _).bind; intro _
  apply (follows_parseIdentifier hends).bind; intro tableName
  apply (htype TokenType.noConfusion).bind; intro _
  apply (follows_parseIdentifierList hends).bind; intro columns
  apply (htype TokenType.noConfusion).bind; intro _
  apply (follows_expectKeyword hends _).bind; intro _
  apply (htype TokenType.noConfusion).bind; intro _
  apply (follows_parseValueList hends).bind; intro values
  apply (htype TokenType.noConfusion).bind; intro _
  exact follows_pure _

theorem follows_parseSelectColumns :
    Follows tokens before (parseSelectColumnsAt tokens) parseSelectColumns := by
  have hstar : TokenType.star ≠ .end := TokenType.noConfusion
  apply (follows_matchType hends hstar).bind
  intro matched
  cases matched with
  | true => exact follows_pure _
  | false =>
      apply (follows_parseIdentifierList hends).bind; intro columns
      exact follows_pure _

theorem follows_parseCondition :
    Follows tokens before (parseConditionAt tokens) parseCondition := by
  have hequals : TokenType.equals ≠ .end := TokenType.noConfusion
  apply Follows.look hends
  intro token rest _
  rw [currentToken_cons]
  cases hwhere : isKeyword (ascii "WHERE") token with
  | true =>
      have hother : token.type ≠ .end := by
        rw [isKeyword_type hwhere]
        exact TokenType.noConfusion
      apply (follows_advance hends hother).bind; intro _
      apply (follows_parseIdentifier hends).bind; intro whereColumn
      apply (follows_expectType hends hequals _).bind; intro _
      apply (follows_parseValue hends _).bind; intro whereValue
      apply (follows_rejectUnsupportedWhereConnector hends).bind; intro _
      exact follows_pure _
  | false => exact follows_pure none

theorem follows_parseSelect :
    Follows tokens before (parseSelectAt tokens) parseSelect := by
  apply (follows_expectKeyword hends _).bind; intro _
  apply (follows_parseSelectColumns hends).bind; intro selected
  apply (follows_expectKeyword hends _).bind; intro _
  apply (follows_parseIdentifier hends).bind; intro tableName
  apply (follows_parseCondition hends).bind; intro condition
  exact follows_pure _

theorem follows_parseBody :
    Follows tokens before (parseBodyAt tokens) parseBody := by
  apply Follows.look hends
  intro token rest _
  cases hinsert : isKeyword (ascii "INSERT") token with
  | true =>
      simp only [currentToken_cons, hinsert, if_true]
      exact (follows_parseInsert hends).bind fun _ => follows_pure _
  | false =>
      cases hselect : isKeyword (ascii "SELECT") token with
      | true =>
          simp only [currentToken_cons, hinsert, hselect, Bool.false_eq_true, if_false,
            if_true]
          exact (follows_parseSelect hends).bind fun _ => follows_pure _
      | false =>
          simp only [currentToken_cons, hinsert, hselect, Bool.false_eq_true, if_false]
          exact fun _ _ _ => .error _

end Functions

theorem expectEnd_eq {tokens : List Token} (hends : EndsOnce tokens) (text : String)
    {index : Nat} (hindex : index < tokens.length) :
    (exists complaint, expectTypeAt tokens .end text index = some (.error complaint) ∧
        expectType .end text (tokens.drop index) = .error complaint) ∨
      (expectTypeAt tokens .end text index = some (.ok ((), index + 1)) ∧
        expectType .end text (tokens.drop index) = .ok ((), tokens.drop (index + 1))) := by
  rcases hends.at_index hindex with ⟨token, hget, hdrop, _⟩
  have hcurrent : currentTokenAt tokens index = some (.ok (token, index)) := by
    unfold currentTokenAt
    rw [hget]
    rfl
  unfold expectTypeAt matchTypeAt
  rw [parseAt_bind, parseAt_bind, hcurrent, hdrop]
  simp only [Option.bind_some]
  by_cases hend : token.type = .end
  · right
    rw [if_pos hend]
    exact ⟨rfl, expectType_same text hend⟩
  · left
    rw [if_neg hend]
    refine ⟨expectedTokenError (ascii text) [token], ?_, ?_⟩
    · change failExpectedAt tokens Unit (ascii text) index = _
      unfold failExpectedAt
      rw [parseAt_bind, hcurrent]
      rfl
    · unfold expectType
      rw [parse_bind, matchType_other hend]
      rfl

theorem parseStatementAt_eq {tokens : List Token} (hends : EndsOnce tokens) :
    parseStatementAt tokens = some (parseStatement tokens) := by
  have hlength : 0 < tokens.length := by
    cases hends <;> exact Nat.succ_pos _
  have hsemicolon : TokenType.semicolon ≠ .end := TokenType.noConfusion
  have hfirst : Follows tokens anyToken (parseBodyAt tokens) parseBody :=
    follows_parseBody hends
  have hbody := hfirst 0 hlength trivial
  change Agrees tokens 0 (parseBodyAt tokens 0) (parseBody tokens) at hbody
  unfold parseStatementAt parseStatement parseWholeAt parseWhole StateT.run
  rw [parseAt_bind, parse_bind]
  generalize parseBodyAt tokens 0 = result at hbody ⊢
  generalize parseBody tokens = outcome at hbody ⊢
  cases hbody with
  | error text => rfl
  | @ok statement next _ hinside =>
      have hsecond : forall text, Follows tokens anyToken
          (expectTypeAt tokens .semicolon text) (expectType .semicolon text) :=
        follows_expectType hends hsemicolon
      have hmark := hsecond "expected ';' at end of SQL statement" next hinside trivial
      simp only [Option.bind_some]
      rw [parseAt_bind, parse_bind]
      generalize expectTypeAt tokens .semicolon _ next = result at hmark ⊢
      generalize expectType .semicolon _ (tokens.drop next) = outcome at hmark ⊢
      cases hmark with
      | error text => rfl
      | @ok _ last _ hinside =>
          simp only [Option.bind_some]
          rw [parseAt_bind, parse_bind]
          rcases expectEnd_eq hends "unexpected tokens after SQL statement" hinside with
            ⟨complaint, hat, hparse⟩ | ⟨hat, hparse⟩
          · rw [hat, hparse]
            rfl
          · rw [hat, hparse]
            rfl

end Sql
end SqlCsvServer
