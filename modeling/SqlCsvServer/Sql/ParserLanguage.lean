import SqlCsvServer.Sql.Grammar
import SqlCsvServer.Sql.LexerLanguage

/-!
# The language of `parse_statement`

Every parser function walks along the readings: it consumes tokens and leaves the
reading they lead to, or it fails at the first token that has no place there, with a
message about that token.  So the parser accepts what the grammar derives.
-/

namespace SqlCsvServer
namespace Sql

open Foundation
open Common

/-!
## Token arrays
-/

inductive EndsOnce : List Token -> Prop where
  | last {token : Token} (hend : token.type = .end) : EndsOnce [token]
  | cons {token : Token} {tokens : List Token} (hother : token.type ≠ .end)
      (hrest : EndsOnce tokens) : EndsOnce (token :: tokens)

def LexedToken (token : Token) : Prop :=
  token.type ≠ .end ∧ (token.type = .string ∨ Byte.space ∉ token.text)

theorem SqlPiece.lexedToken {index : Nat} {tail piece : Bytes} {token : Token}
    (h : SqlPiece index tail piece (some token)) : LexedToken token := by
  cases h with
  | word hne hword hmaximal =>
      constructor
      · change wordType piece ≠ .end
        unfold wordType
        split <;> simp
      · right
        intro hspace
        have hblank := (isIdentifierContinue_iff _).mpr (hword _ hspace)
        exact absurd hblank (by decide)
  | @mark symbol type hsymbol =>
      constructor
      · exact (simpleTokenType_mark hsymbol).1
      · right
        intro hspace
        rw [← List.mem_singleton.mp hspace] at hsymbol
        exact absurd hsymbol nofun
  | literal hclosed => exact ⟨by simp, .inl rfl⟩

theorem lexRound_outcome {index : Nat} {b : Byte} {rest left : Bytes}
    {token : Option Token} (h : lexRound index b rest = .ok (token, left)) :
    left.length ≤ rest.length ∧ forall found, token = some found -> LexedToken found := by
  rcases lexRound_cases h with ⟨piece, htext, hpiece⟩ | ⟨content, htext, _, rfl, rfl⟩
  · constructor
    · rcases hpiece.lexRound with ⟨first, more, rfl, _⟩
      have hlength := congrArg List.length htext
      rw [List.length_append, List.length_cons, List.length_cons] at hlength
      omega
    · intro found hfound
      rw [hfound] at hpiece
      exact hpiece.lexedToken
  · constructor
    · exact Nat.zero_le _
    · intro found hfound
      cases hfound
      exact ⟨by simp, .inl rfl⟩

inductive LexedTokens : List Token -> Prop where
  | last (index : Nat) : LexedTokens [endToken index]
  | cons {token : Token} {tokens : List Token} (hlexed : LexedToken token)
      (hrest : LexedTokens tokens) : LexedTokens (token :: tokens)

theorem lexLoop_lexedTokens {fuel : Nat} :
    forall {index : Nat} {text : Bytes} {tokens : List Token}, text.length ≤ fuel ->
      lexLoop fuel index text = .ok tokens -> LexedTokens tokens := by
  induction fuel with
  | zero =>
      intro index text tokens hfuel h
      cases text with
      | nil =>
          cases h
          exact .last index
      | cons b rest => exact absurd hfuel (Nat.not_succ_le_zero _)
  | succ fuel ih =>
      intro index text tokens hfuel h
      cases text with
      | nil =>
          cases h
          exact .last index
      | cons b rest =>
          cases hround : lexRound index b rest with
          | error message =>
              rw [lexLoop, hround] at h
              cases h
          | ok result =>
              rcases result with ⟨token, left⟩
              rcases lexRound_outcome hround with ⟨hleft, hlexed⟩
              rw [lexLoop, hround] at h
              simp only at h
              cases hrest : lexLoop fuel (index + (rest.length + 1 - left.length))
                  left with
              | error message =>
                  rw [hrest] at h
                  cases h
              | ok more =>
                  rw [hrest] at h
                  cases h
                  have hmore := ih
                    (Nat.le_trans hleft (Nat.le_of_succ_le_succ hfuel)) hrest
                  cases token with
                  | none => exact hmore
                  | some found => exact .cons (hlexed found rfl) hmore

theorem lexSql_lexedTokens {input : Bytes} {tokens : List Token}
    (h : lexSql input = .ok tokens) : LexedTokens tokens :=
  lexLoop_lexedTokens (Nat.le_refl _) h

theorem LexedTokens.mem {tokens : List Token} (h : LexedTokens tokens) {token : Token}
    (hmem : token ∈ tokens) :
    LexedToken token ∨ exists index, token = endToken index := by
  induction h with
  | last index => exact .inr ⟨index, List.mem_singleton.mp hmem⟩
  | cons hlexed hrest ih =>
      rcases List.mem_cons.mp hmem with rfl | hmem
      · exact .inl hlexed
      · exact ih hmem

theorem LexedTokens.endsOnce {tokens : List Token} (h : LexedTokens tokens) :
    EndsOnce tokens := by
  induction h with
  | last index => exact .last rfl
  | cons hlexed hrest ih => exact .cons hlexed.1 ih

/-!
## Walking along the readings
-/

def expectedTexts : List Bytes :=
  [ascii "keyword INSERT", ascii "keyword INTO", ascii "keyword VALUES",
    ascii "keyword SELECT", ascii "keyword FROM", ascii "identifier",
    ascii "SQL value", ascii "SQL value in WHERE clause",
    ascii "expected '(' after table name", ascii "expected ')' after column list",
    ascii "expected '(' after VALUES", ascii "expected ')' after value list",
    ascii "expected '=' in WHERE clause", ascii "expected ';' at end of SQL statement",
    ascii "unexpected tokens after SQL statement"]

def isConnector (token : Token) : Bool :=
  isKeyword (ascii "AND") token || isKeyword (ascii "OR") token

def Complains (reading : Reading) (bad : Token) (text : Bytes) : Prop :=
  match reading with
  | .start =>
      text = message
        (ascii "only INSERT and SELECT are supported, got " ++ describeToken bad)
  | .conditioned _ =>
      if isConnector bad then
        text = message
          (ascii "AND/OR conditions are not supported; " ++
            ascii "only a single WHERE condition is allowed, got IDENTIFIER(\"" ++
            bad.text ++ ascii "\") at position " ++ decimalNat bad.position)
      else exists expected, expected ∈ expectedTexts ∧
        text = expectedTokenError expected [bad]
  | _ => exists expected, expected ∈ expectedTexts ∧
      text = expectedTokenError expected [bad]

def Stuck (here : Reading) (tokens : List Token) (text : Bytes) : Prop :=
  exists front bad rest reading,
    tokens = front ++ bad :: rest ∧ here.run front = some reading ∧
      reading.step bad = none ∧ Complains reading bad text

abbrev Walked {α : Type} (here : Reading) (next : α -> Reading)
    (after : α -> Token -> Prop) (tokens : List Token) :
    Except Bytes (α × List Token) -> Prop
  | .ok (value, left) =>
      EndsOnce left ∧ after value (currentToken left) ∧
        exists front, tokens = front ++ left ∧ here.run front = some (next value)
  | .error text => Stuck here tokens text

/--
The parser function leads from one reading to the next, under a condition on the
current token, and says something on the current token behind it.
-/
def Walks {α : Type} (here : Reading) (before : Token -> Prop) (parse : Parse α)
    (next : α -> Reading) (after : α -> Token -> Prop) : Prop :=
  forall tokens, EndsOnce tokens -> before (currentToken tokens) ->
    Walked here next after tokens (parse tokens)

def anyToken (_ : Token) : Prop := True

section Walking

variable {α β : Type} {here : Reading} {before : Token -> Prop}

theorem Stuck.after {next : Reading} {front left : List Token} {text : Bytes}
    (h : Stuck next left text) (hrun : here.run front = some next) :
    Stuck here (front ++ left) text := by
  rcases h with ⟨more, bad, rest, reading, rfl, hmore, hstep, hcomplains⟩
  refine ⟨front ++ more, bad, rest, reading, ?_, ?_, hstep, hcomplains⟩
  · rw [List.append_assoc]
  · rw [Reading.run_append hrun, hmore]

theorem walked_earlier {reading middle : Reading} {next : α -> Reading}
    {after : α -> Token -> Prop} {front tokens : List Token}
    {result : Except Bytes (α × List Token)}
    (h : Walked middle next after tokens result)
    (hrun : reading.run front = some middle) :
    Walked reading next after (front ++ tokens) result := by
  cases result with
  | error text => exact Stuck.after h hrun
  | ok result =>
      rcases h with ⟨hleft, hafter, more, rfl, hmore⟩
      refine ⟨hleft, hafter, front ++ more, ?_, ?_⟩
      · rw [List.append_assoc]
      · rw [Reading.run_append hrun, hmore]

theorem walks_pure {next : α -> Reading} (value : α) :
    Walks (next value) before (pure value) next (fun _ => before) := by
  intro tokens hends hbefore
  exact ⟨hends, hbefore, [], rfl, rfl⟩

theorem Walks.bind {middle : α -> Reading} {between : α -> Token -> Prop}
    {first : Parse α} {second : α -> Parse β} {next : β -> Reading}
    {after : β -> Token -> Prop} (hfirst : Walks here before first middle between)
    (hsecond : forall value,
      Walks (middle value) (between value) (second value) next after) :
    Walks here before (first >>= second) next after := by
  intro tokens hends hbefore
  have hwalk := hfirst tokens hends hbefore
  rw [parse_bind]
  cases hparse : first tokens with
  | error text =>
      rw [hparse] at hwalk
      exact hwalk
  | ok result =>
      rcases result with ⟨value, left⟩
      rw [hparse] at hwalk
      rcases hwalk with ⟨hleft, hbetween, front, rfl, hfront⟩
      exact walked_earlier (hsecond value left hleft hbetween) hfront

theorem EndsOnce.tail {token : Token} {tokens : List Token}
    (h : EndsOnce (token :: tokens)) (hother : token.type ≠ .end) :
    EndsOnce tokens := by
  cases h with
  | last hend => exact absurd hend hother
  | cons _ hrest => exact hrest

theorem walks_token {parse : Parse α} {accepts : Token -> Bool} {value : Token -> α}
    {next : α -> Reading} {expected : Bytes}
    (hok : forall token tokens, accepts token = true ->
      parse (token :: tokens) = .ok (value token, tokens))
    (herror : forall token tokens, accepts token = false ->
      parse (token :: tokens) = .error (expectedTokenError expected [token]))
    (hend : forall token, accepts token = true -> token.type ≠ .end)
    (hstep : forall token, before token ->
      here.step token = onToken (accepts token) (next (value token)))
    (hcomplains : forall token, before token -> accepts token = false ->
      Complains here token (expectedTokenError expected [token])) :
    Walks here before parse next (fun _ => anyToken) := by
  intro tokens hends hbefore
  cases tokens with
  | nil => cases hends
  | cons token tokens =>
      cases haccepts : accepts token with
      | true =>
          rw [hok token tokens haccepts]
          refine ⟨hends.tail (hend token haccepts), trivial, [token], rfl, ?_⟩
          have hnext := hstep token hbefore
          rw [haccepts] at hnext
          rw [Reading.run_cons hnext]
          rfl
      | false =>
          rw [herror token tokens haccepts]
          have hnext := hstep token hbefore
          rw [haccepts] at hnext
          exact ⟨[], token, tokens, here, rfl, rfl, hnext,
            hcomplains token hbefore haccepts⟩

def Reading.IsPlain : Reading -> Prop
  | .start => False
  | .conditioned _ => False
  | _ => True

theorem Reading.IsPlain.complains {reading : Reading} (h : reading.IsPlain)
    {bad : Token} {expected : Bytes} (hexpected : expected ∈ expectedTexts) :
    Complains reading bad (expectedTokenError expected [bad]) := by
  cases reading with
  | start => exact h.elim
  | conditioned statement => exact h.elim
  | _ => exact ⟨expected, hexpected, rfl⟩

theorem walks_expectType {type : TokenType} {text : String} {next : Reading}
    (hend : type ≠ .end)
    (hstep : forall token, before token ->
      here.step token = onToken (token.type == type) next)
    (hcomplains : forall token, before token -> (token.type == type) = false ->
      Complains here token (expectedTokenError (ascii text) [token])) :
    Walks here before (expectType type text) (fun _ => next) (fun _ => anyToken) := by
  apply @walks_token Unit here before (expectType type text)
    (fun token => token.type == type) (fun _ => ()) (fun _ => next) (ascii text)
  · intro token tokens h
    exact expectType_same text (beq_iff_eq.mp h)
  · intro token tokens h
    have hother : token.type ≠ type := by simpa using h
    simp [expectType, matchType_other hother]
    rfl
  · intro token h
    rw [beq_iff_eq.mp h]
    exact hend
  · exact hstep
  · exact hcomplains

theorem walks_expectKeyword {keyword : String} {next : Reading}
    (hexpected : snprintf 64 (ascii "keyword " ++ ascii keyword) ∈ expectedTexts)
    (hstep : forall token, before token ->
      here.step token = onToken (isKeyword (ascii keyword) token) next)
    (hplain : forall token, before token -> isKeyword (ascii keyword) token = false ->
      here.IsPlain) :
    Walks here before (expectKeyword keyword) (fun _ => next)
      (fun _ => anyToken) := by
  apply @walks_token Unit here before (expectKeyword keyword)
    (isKeyword (ascii keyword)) (fun _ => ()) (fun _ => next)
    (snprintf 64 (ascii "keyword " ++ ascii keyword))
  · intro token tokens h
    exact expectKeyword_same h
  · intro token tokens h
    simp [expectKeyword, h]
    rfl
  · intro token h
    rw [isKeyword_type h]
    simp
  · exact hstep
  · intro token hbefore h
    exact (hplain token hbefore h).complains hexpected

theorem walks_parseIdentifier {next : Bytes -> Reading} (hplain : here.IsPlain)
    (hstep : forall token, before token ->
      here.step token = onToken (token.type == .identifier) (next token.text)) :
    Walks here before parseIdentifier next (fun _ => anyToken) := by
  apply @walks_token Bytes here before parseIdentifier
    (fun token => token.type == .identifier) Token.text next (ascii "identifier")
  · intro token tokens h
    exact parseIdentifier_same (beq_iff_eq.mp h)
  · intro token tokens h
    have hother : token.type ≠ .identifier := by simpa using h
    simp [parseIdentifier, hother]
    rfl
  · intro token h
    rw [beq_iff_eq.mp h]
    simp
  · exact hstep
  · exact fun token _ _ => hplain.complains (by decide)

theorem walks_parseValue {expected : String} {next : Bytes -> Reading}
    (hexpected : ascii expected ∈ expectedTexts) (hplain : here.IsPlain)
    (hstep : forall token, before token ->
      here.step token = onToken (isValueType token.type) (next token.text)) :
    Walks here before (parseValue expected) next (fun _ => anyToken) := by
  apply @walks_token Bytes here before (parseValue expected)
    (fun token => isValueType token.type) Token.text next (ascii expected)
  · intro token tokens h
    exact parseValue_same expected h
  · intro token tokens h
    simp [parseValue, h]
    rfl
  · intro token h hend
    rw [hend] at h
    cases h
  · exact hstep
  · exact fun token _ _ => hplain.complains hexpected

def notComma (token : Token) : Prop := token.type ≠ .comma

theorem walks_parseMoreItems {item : Parse Bytes} {next more : List Bytes -> Reading}
    (hitem : forall texts, Walks (next texts) anyToken item
      (fun text => more (texts ++ [text])) (fun _ => anyToken))
    (hcomma : forall texts token, token.type = .comma ->
      (more texts).step token = some (next texts)) :
    forall (fuel : Nat) (texts : List Bytes) (tokens : List Token),
      EndsOnce tokens -> tokens.length ≤ fuel ->
        Walked (more texts) (fun values => more (texts ++ values))
          (fun _ => notComma) tokens (parseMoreItems item fuel tokens) := by
  intro fuel
  induction fuel with
  | zero =>
      intro texts tokens hends hfuel
      rw [List.length_eq_zero_iff.mp (Nat.le_zero.mp hfuel)] at hends
      cases hends
  | succ fuel ih =>
      intro texts tokens hends hfuel
      cases tokens with
      | nil => cases hends
      | cons token tokens =>
          rw [parseMoreItems, parse_bind]
          by_cases htype : token.type = .comma
          · have htail := hends.tail (by rw [htype]; simp)
            have hwalk := hitem texts tokens htail trivial
            have hstep : (more texts).run [token] = some (next texts) := by
              rw [Reading.run_cons (hcomma texts token htype)]
              rfl
            rw [matchType_same htype]
            simp only [if_true, parse_bind]
            apply @walked_earlier _ _ _ _ _ [token] tokens _ _ hstep
            cases hparse : item tokens with
            | error text =>
                rw [hparse] at hwalk
                exact hwalk
            | ok result =>
                rcases result with ⟨value, left⟩
                rw [hparse] at hwalk
                rcases hwalk with ⟨hleft, _, front, rfl, hfront⟩
                have hshort : left.length ≤ fuel := by
                  rw [List.length_cons, List.length_append] at hfuel
                  omega
                have hrest := ih (texts ++ [value]) left hleft hshort
                apply @walked_earlier _ _ _ _ _ front left _ _ hfront
                simp only
                cases hloop : parseMoreItems item fuel left with
                | error text =>
                    rw [hloop] at hrest
                    exact hrest
                | ok result =>
                    rw [hloop] at hrest
                    rcases hrest with ⟨hlast, hnot, tail, htail, hrun⟩
                    simp only [List.append_assoc] at hrun
                    exact ⟨hlast, hnot, tail, htail, hrun⟩
          · rw [matchType_other htype]
            refine ⟨hends, htype, [], rfl, ?_⟩
            change some (more texts) = some (more (texts ++ []))
            rw [List.append_nil]

theorem walks_parseItemList {item : Parse Bytes} {next more : List Bytes -> Reading}
    (hfirst : Walks here before item (fun text => more [text]) (fun _ => anyToken))
    (hitem : forall texts, Walks (next texts) anyToken item
      (fun text => more (texts ++ [text])) (fun _ => anyToken))
    (hcomma : forall texts token, token.type = .comma ->
      (more texts).step token = some (next texts)) :
    Walks here before (parseItemList item) more (fun _ => notComma) := by
  unfold parseItemList
  apply hfirst.bind
  intro value tokens hends _
  have hloop := walks_parseMoreItems hitem hcomma tokens.length [value] tokens hends
    (Nat.le_refl _)
  simp only [parse_bind, parse_get]
  cases hparse : parseMoreItems item tokens.length tokens with
  | error text =>
      rw [hparse] at hloop
      exact hloop
  | ok result =>
      rcases result with ⟨values, left⟩
      rw [hparse] at hloop
      exact hloop

end Walking

/-!
## Statements
-/

def spells (keyword : String) (token : Token) : Prop :=
  isKeyword (ascii keyword) token = true

theorem walks_mark {reading next : Reading} {type : TokenType} {text : String}
    (hend : type ≠ .end) (hexpected : ascii text ∈ expectedTexts)
    (hplain : reading.IsPlain)
    (hstep : forall token, reading.step token = onToken (token.type == type) next) :
    Walks reading anyToken (expectType type text) (fun _ => next)
      (fun _ => anyToken) :=
  walks_expectType hend (fun token _ => hstep token)
    fun _ _ _ => hplain.complains hexpected

theorem walks_close {reading next inside : Reading} {text : String}
    (hexpected : ascii text ∈ expectedTexts) (hplain : reading.IsPlain)
    (hstep : forall token, reading.step token =
      if token.type == .comma then some inside
      else onToken (token.type == .rparen) next) :
    Walks reading notComma (expectType .rparen text) (fun _ => next)
      (fun _ => anyToken) := by
  apply walks_expectType (by decide)
  · intro token hnot
    rw [hstep]
    exact if_neg fun hcomma => hnot (beq_iff_eq.mp hcomma)
  · exact fun _ _ _ => hplain.complains hexpected

theorem walks_keyword {reading next : Reading} {keyword : String}
    (hexpected : snprintf 64 (ascii "keyword " ++ ascii keyword) ∈ expectedTexts)
    (hplain : reading.IsPlain)
    (hstep : forall token,
      reading.step token = onToken (isKeyword (ascii keyword) token) next) :
    Walks reading anyToken (expectKeyword keyword) (fun _ => next)
      (fun _ => anyToken) :=
  walks_expectKeyword hexpected (fun token _ => hstep token) fun _ _ _ => hplain

theorem walks_columns (tableName : Bytes) :
    Walks (.column { tableName := tableName, columns := [], values := [] })
      anyToken parseIdentifierList
      (fun columns =>
        .moreColumns { tableName := tableName, columns := columns, values := [] })
      (fun _ => notComma) := by
  apply @walks_parseItemList _ _ _
    (fun texts => .column { tableName := tableName, columns := texts, values := [] })
  · exact walks_parseIdentifier trivial (fun _ _ => rfl)
  · intro texts
    exact walks_parseIdentifier trivial (fun _ _ => rfl)
  · intro texts token hcomma
    simp only [Reading.step, hcomma]
    rfl

theorem walks_values (tableName : Bytes) (columns : List Bytes) :
    Walks (.value { tableName := tableName, columns := columns, values := [] })
      anyToken parseValueList
      (fun values =>
        .moreValues { tableName := tableName, columns := columns, values := values })
      (fun _ => notComma) := by
  apply @walks_parseItemList _ _ _
    (fun texts => .value { tableName := tableName, columns := columns, values := texts })
  · exact walks_parseValue (by decide) trivial (fun _ _ => rfl)
  · intro texts
    exact walks_parseValue (by decide) trivial (fun _ _ => rfl)
  · intro texts token hcomma
    simp only [Reading.step, hcomma]
    rfl

theorem walks_parseInsert :
    Walks .start (spells "INSERT") parseInsert .inserted (fun _ => anyToken) := by
  have hinsert : Walks .start (spells "INSERT") (expectKeyword "INSERT")
      (fun _ => .into) (fun _ => anyToken) := by
    apply walks_expectKeyword (by decide)
    · intro token h
      unfold spells at h
      simp [Reading.step, onToken, h]
    · intro token h hother
      unfold spells at h
      exact absurd (h.symm.trans hother) (by decide)
  have hinto : Walks .into anyToken (expectKeyword "INTO") (fun _ => .insertTable)
      (fun _ => anyToken) :=
    walks_keyword (by decide) trivial fun _ => rfl
  have htable : Walks .insertTable anyToken parseIdentifier
      (fun tableName =>
        .insertOpen { tableName := tableName, columns := [], values := [] })
      (fun _ => anyToken) :=
    walks_parseIdentifier trivial fun _ _ => rfl
  have hopen : forall statement, Walks (.insertOpen statement) anyToken
      (expectType .lparen "expected '(' after table name")
      (fun _ => .column statement) (fun _ => anyToken) :=
    fun _ => walks_mark (by simp) (by decide) trivial fun _ => rfl
  have hclose : forall statement, Walks (.moreColumns statement) notComma
      (expectType .rparen "expected ')' after column list")
      (fun _ => .valuesWord statement) (fun _ => anyToken) :=
    fun _ => walks_close (by decide) trivial fun _ => rfl
  have hvaluesWord : forall statement, Walks (.valuesWord statement) anyToken
      (expectKeyword "VALUES") (fun _ => .valuesOpen statement) (fun _ => anyToken) :=
    fun _ => walks_keyword (by decide) trivial fun _ => rfl
  have hvaluesOpen : forall statement, Walks (.valuesOpen statement) anyToken
      (expectType .lparen "expected '(' after VALUES")
      (fun _ => .value statement) (fun _ => anyToken) :=
    fun _ => walks_mark (by simp) (by decide) trivial fun _ => rfl
  have hcloseValues : forall statement, Walks (.moreValues statement) notComma
      (expectType .rparen "expected ')' after value list")
      (fun _ => .inserted statement) (fun _ => anyToken) :=
    fun _ => walks_close (by decide) trivial fun _ => rfl
  unfold parseInsert
  exact hinsert.bind fun _ => hinto.bind fun _ => htable.bind fun tableName =>
    (hopen _).bind fun _ => (walks_columns tableName).bind fun columns =>
      (hclose _).bind fun _ => (hvaluesWord _).bind fun _ =>
        (hvaluesOpen _).bind fun _ => (walks_values tableName columns).bind fun _ =>
          (hcloseValues _).bind fun _ => walks_pure _

def Reading.afterItems (items : Bool × List Bytes) : Reading :=
  if items.1 then .fromWord else .moreItems items.2

theorem walks_selectedNames :
    Walks .selectedItems (fun token => token.type ≠ .star) parseIdentifierList
      .moreItems (fun _ => notComma) := by
  have hfirst : Walks .selectedItems (fun token => token.type ≠ .star) parseIdentifier
      (fun text => .moreItems [text]) (fun _ => anyToken) := by
    apply @walks_parseIdentifier .selectedItems _ (fun text => .moreItems [text]) trivial
    intro token hother
    simp [Reading.step, hother]
  have hitem : forall texts, Walks (.selectedItem texts) anyToken parseIdentifier
      (fun text => .moreItems (texts ++ [text])) (fun _ => anyToken) :=
    fun _ => walks_parseIdentifier trivial fun _ _ => rfl
  apply walks_parseItemList hfirst hitem
  intro texts token hcomma
  simp only [Reading.step, hcomma]
  rfl

theorem walks_parseSelectColumns :
    Walks .selectedItems anyToken parseSelectColumns Reading.afterItems
      (fun items token => items = (true, []) ∨ items.1 = false ∧ notComma token) := by
  intro tokens hends _
  cases tokens with
  | nil => cases hends
  | cons token tokens =>
      by_cases hstar : token.type = .star
      · have hparse : parseSelectColumns (token :: tokens) =
            .ok ((true, []), tokens) := by
          simp [parseSelectColumns, matchType_same hstar]
        rw [hparse]
        have hother : token.type ≠ .end := by
          rw [hstar]
          simp
        refine ⟨hends.tail hother, .inl rfl, [token], rfl, ?_⟩
        simp [Reading.run, Reading.step, hstar, Reading.afterItems]
      · have hwalk := walks_selectedNames (token :: tokens) hends hstar
        unfold parseSelectColumns
        rw [parse_bind, matchType_other hstar]
        simp only [Bool.false_eq_true, if_false, parse_bind]
        cases hitems : parseIdentifierList (token :: tokens) with
        | error text =>
            rw [hitems] at hwalk
            exact hwalk
        | ok result =>
            rcases result with ⟨columns, left⟩
            rw [hitems] at hwalk
            exact ⟨hwalk.1, .inr ⟨rfl, hwalk.2.1⟩, hwalk.2.2⟩

/-- The reading behind the part of a SELECT that `parse_select` reads. -/
def Reading.afterSelect (statement : SelectStatement) : Reading :=
  match statement.condition with
  | none => .whereWord statement
  | some _ => .conditioned statement

def afterSelect (statement : SelectStatement) (token : Token) : Prop :=
  match statement.condition with
  | none => isKeyword (ascii "WHERE") token = false
  | some _ => isConnector token = false

theorem walks_rejectConnector (statement : SelectStatement) :
    Walks (.conditioned statement) anyToken rejectUnsupportedWhereConnector
      (fun _ => .conditioned statement) (fun _ token => isConnector token = false) := by
  intro tokens hends _
  cases tokens with
  | nil => cases hends
  | cons token tokens =>
      by_cases hconnector : isConnector token = true
      · have hkeyword := hconnector
        unfold isConnector at hkeyword
        rw [Bool.or_eq_true] at hkeyword
        have hidentifier : token.type = .identifier := by
          rcases hkeyword with hand | hor
          · exact isKeyword_type hand
          · exact isKeyword_type hor
        unfold rejectUnsupportedWhereConnector
        simp only [currentToken_cons, hkeyword, if_true]
        refine ⟨[], token, tokens, _, rfl, rfl, ?_, ?_⟩
        · simp [Reading.step, onToken, hidentifier]
        · simp only [Complains, hconnector, if_true]
      · have hkeyword : ¬ (isKeyword (ascii "AND") token = true ∨
            isKeyword (ascii "OR") token = true) := by
          rw [← Bool.or_eq_true]
          exact hconnector
        unfold rejectUnsupportedWhereConnector
        simp only [currentToken_cons, hkeyword, if_false]
        exact ⟨hends, Bool.eq_false_iff.mpr hconnector, [], rfl, rfl⟩

/-- `parse_select` behind WHERE. -/
def parseWhereClause : Parse (Option WhereCondition) := do
  let whereColumn ← parseIdentifier
  expectType .equals "expected '=' in WHERE clause"
  let whereValue ← parseConditionValue
  rejectUnsupportedWhereConnector
  return some { whereColumn := whereColumn, whereValue := whereValue }

theorem walks_parseWhereClause (statement : SelectStatement) :
    Walks (.whereColumn statement) anyToken parseWhereClause
      (fun condition => .afterSelect { statement with condition := condition })
      (fun condition => afterSelect { statement with condition := condition }) := by
  have hcolumn : Walks (.whereColumn statement) anyToken parseIdentifier
      (.whereEquals statement) (fun _ => anyToken) :=
    walks_parseIdentifier trivial fun _ _ => rfl
  have hequals : forall name, Walks (.whereEquals statement name) anyToken
      (expectType .equals "expected '=' in WHERE clause")
      (fun _ => .whereValue statement name) (fun _ => anyToken) :=
    fun _ => walks_mark (by simp) (by decide) trivial fun _ => rfl
  have hvalue : forall name, Walks (.whereValue statement name) anyToken
      parseConditionValue
      (fun value =>
        .conditioned
          { statement with
            condition := some { whereColumn := name, whereValue := value } })
      (fun _ => anyToken) :=
    fun _ => walks_parseValue (by decide) trivial fun _ _ => rfl
  apply hcolumn.bind
  intro name
  apply (hequals name).bind
  intro _
  apply (hvalue name).bind
  intro value
  apply (walks_rejectConnector _).bind
  intro _ tokens hends hnot
  exact ⟨hends, hnot, [], rfl, rfl⟩

theorem walks_parseCondition {statement : SelectStatement}
    (hnone : statement.condition = none) :
    Walks (.whereWord statement) anyToken parseCondition
      (fun condition => .afterSelect { statement with condition := condition })
      (fun condition => afterSelect { statement with condition := condition }) := by
  intro tokens hends _
  cases tokens with
  | nil => cases hends
  | cons token tokens =>
      by_cases hwhere : isKeyword (ascii "WHERE") token = true
      · have htail := hends.tail (by rw [isKeyword_type hwhere]; simp)
        have hstep : (Reading.whereWord statement).run [token] =
            some (.whereColumn statement) := by
          simp [Reading.run, Reading.step, hwhere]
        have hparse : parseCondition (token :: tokens) = parseWhereClause tokens := by
          unfold parseCondition
          rw [parse_bind, parse_get]
          simp only [currentToken_cons, hwhere, if_true]
          rw [parse_bind, advance_cons]
          rfl
        rw [hparse]
        exact walked_earlier (walks_parseWhereClause statement tokens htail trivial) hstep
      · have hparse : parseCondition (token :: tokens) = .ok (none, token :: tokens) := by
          simp [parseCondition, hwhere]
        rw [hparse]
        refine ⟨hends, Bool.eq_false_iff.mpr hwhere, [], rfl, ?_⟩
        cases statement with
        | mk tableName columns selectAll condition =>
            rw [show condition = none from hnone]
            rfl

theorem walks_parseSelect :
    Walks .start (spells "SELECT") parseSelect .afterSelect afterSelect := by
  have hselect : Walks .start (spells "SELECT") (expectKeyword "SELECT")
      (fun _ => .selectedItems) (fun _ => anyToken) := by
    apply walks_expectKeyword (by decide)
    · intro token h
      have hnot := select_not_insert h
      unfold spells at h
      simp [Reading.step, onToken, h, hnot]
    · intro token h hother
      unfold spells at h
      exact absurd (h.symm.trans hother) (by decide)
  have hfrom : forall items : Bool × List Bytes,
      Walks (.afterItems items)
        (fun token => items = (true, []) ∨ items.1 = false ∧ notComma token)
        (expectKeyword "FROM") (fun _ => .selectTable items.1 items.2)
        (fun _ => anyToken) := by
    rintro ⟨selectAll, columns⟩
    cases selectAll with
    | true =>
        apply walks_expectKeyword (by decide)
        · intro token h
          rcases h with h | h
          · cases h
            rfl
          · cases h.1
        · exact fun _ _ _ => trivial
    | false =>
        apply walks_expectKeyword (by decide)
        · intro token h
          rcases h with h | h
          · cases h
          · have hnot : token.type ≠ .comma := h.2
            simp [Reading.afterItems, Reading.step, hnot]
        · exact fun _ _ _ => trivial
  have htable : forall selectAll columns,
      Walks (.selectTable selectAll columns) anyToken parseIdentifier
        (fun tableName =>
          .whereWord
            { tableName := tableName
              columns := columns
              selectAll := selectAll
              condition := none })
        (fun _ => anyToken) :=
    fun _ _ => walks_parseIdentifier trivial fun _ _ => rfl
  unfold parseSelect
  apply hselect.bind
  intro _
  apply walks_parseSelectColumns.bind
  intro items
  apply (hfrom items).bind
  intro _
  apply (htable items.1 items.2).bind
  intro tableName
  apply (walks_parseCondition rfl).bind
  intro condition tokens hends hafter
  exact ⟨hends, hafter, [], rfl, rfl⟩

/-!
## The whole token array
-/

/-- The reading behind a statement that `parse_statement` has read. -/
def Reading.afterStatement : Statement -> Reading
  | .insertStatement statement => .inserted statement
  | .selectStatement statement => .afterSelect statement

def afterStatement : Statement -> Token -> Prop
  | .insertStatement _ => anyToken
  | .selectStatement statement => afterSelect statement

theorem walks_parseBody :
    Walks .start anyToken parseBody .afterStatement afterStatement := by
  intro tokens hends _
  cases tokens with
  | nil => cases hends
  | cons token tokens =>
      by_cases hinsert : isKeyword (ascii "INSERT") token = true
      · have hwalk := walks_parseInsert (token :: tokens) hends hinsert
        have hbody : parseBody (token :: tokens) =
            (Statement.insertStatement <$> parseInsert) (token :: tokens) := by
          simp [parseBody, hinsert]
        rw [hbody, parse_map]
        cases hparse : parseInsert (token :: tokens) with
        | error text =>
            rw [hparse] at hwalk
            exact hwalk
        | ok result =>
            rw [hparse] at hwalk
            exact hwalk
      · by_cases hselect : isKeyword (ascii "SELECT") token = true
        · have hwalk := walks_parseSelect (token :: tokens) hends hselect
          have hbody : parseBody (token :: tokens) =
              (Statement.selectStatement <$> parseSelect) (token :: tokens) := by
            simp [parseBody, hinsert, hselect]
          rw [hbody, parse_map]
          cases hparse : parseSelect (token :: tokens) with
          | error text =>
              rw [hparse] at hwalk
              exact hwalk
          | ok result =>
              rw [hparse] at hwalk
              exact hwalk
        · have hbody : parseBody (token :: tokens) =
              .error (message
                (ascii "only INSERT and SELECT are supported, got " ++
                  describeToken token)) := by
            simp [parseBody, hinsert, hselect]
            rfl
          rw [hbody]
          refine ⟨[], token, tokens, .start, rfl, rfl, ?_, rfl⟩
          simp [Reading.step, onToken, hinsert, hselect]

theorem walks_semicolon (statement : Statement) :
    Walks (.afterStatement statement) (afterStatement statement)
      (expectType .semicolon "expected ';' at end of SQL statement")
      (fun _ => .finish statement) (fun _ => anyToken) := by
  have hexpected : ascii "expected ';' at end of SQL statement" ∈ expectedTexts := by
    decide
  cases statement with
  | insertStatement statement =>
      exact @walks_mark (.inserted statement) _ _ _ (by simp) hexpected trivial fun _ => rfl
  | selectStatement statement =>
      rcases statement with ⟨tableName, columns, selectAll, _ | condition⟩
      · apply walks_expectType (by decide)
        · intro token hnot
          have hwhere : isKeyword (ascii "WHERE") token = false := hnot
          simp [Reading.afterStatement, Reading.afterSelect, Reading.step, hwhere]
        · intro token _ _
          exact ⟨_, hexpected, rfl⟩
      · apply walks_expectType (by decide)
        · exact fun _ _ => rfl
        · intro token hnot _
          have hconnector : isConnector token = false := hnot
          simp only [Complains, Reading.afterStatement, Reading.afterSelect, hconnector,
            Bool.false_eq_true, if_false]
          exact ⟨_, hexpected, rfl⟩

theorem finish_outcome {left : List Token} (hends : EndsOnce left)
    (statement : Statement) :
    match expectType .end "unexpected tokens after SQL statement" left with
    | .ok _ => (Reading.finish statement).run left = some (.done statement)
    | .error text => Stuck (.finish statement) left text := by
  cases hends with
  | @last token hend =>
      rw [expectType_same _ hend]
      simp [Reading.run, Reading.step, onToken, hend]
  | @cons token tokens hother hrest =>
      have herror : expectType .end "unexpected tokens after SQL statement"
          (token :: tokens) =
          .error (expectedTokenError (ascii "unexpected tokens after SQL statement")
            [token]) := by
        simp [expectType, matchType_other hother]
        rfl
      rw [herror]
      refine ⟨[], token, tokens, _, rfl, rfl, ?_, ?_⟩
      · simp [Reading.step, onToken, hother]
      · exact @Reading.IsPlain.complains (.finish statement) trivial token _ (by decide)

theorem parseStatement_reads_or_stuck {tokens : List Token} (hends : EndsOnce tokens) :
    match parseStatement tokens with
    | .ok statement => Reading.start.run tokens = some (.done statement)
    | .error text => Stuck .start tokens text := by
  have hwalk := (walks_parseBody.bind fun statement =>
    (walks_semicolon statement).bind fun _ => @walks_pure _ anyToken _ statement)
    tokens hends trivial
  have hparse : parseStatement tokens =
      match (parseBody >>= fun statement =>
          expectType .semicolon "expected ';' at end of SQL statement" >>= fun _ =>
            pure statement) tokens with
      | .error text => .error text
      | .ok (statement, left) =>
          match expectType .end "unexpected tokens after SQL statement" left with
          | .error text => .error text
          | .ok _ => .ok statement := by
    unfold parseStatement parseWhole
    change (Except.map Prod.fst ((parseBody >>= fun statement => _) tokens)) = _
    simp only [parse_bind]
    cases parseBody tokens with
    | error text => rfl
    | ok result =>
        simp only
        cases expectType .semicolon "expected ';' at end of SQL statement" result.2 with
        | error text => rfl
        | ok found =>
            simp only [parse_pure]
            cases expectType .end "unexpected tokens after SQL statement" found.2 <;> rfl
  rw [hparse]
  cases hbody : (parseBody >>= fun statement =>
      expectType .semicolon "expected ';' at end of SQL statement" >>= fun _ =>
        (pure statement : Parse Statement)) tokens with
  | error text =>
      rw [hbody] at hwalk
      exact hwalk
  | ok result =>
      rcases result with ⟨statement, left⟩
      rw [hbody] at hwalk
      rcases hwalk with ⟨hleft, _, front, rfl, hfront⟩
      have hfinish := finish_outcome hleft statement
      simp only
      cases hend : expectType .end "unexpected tokens after SQL statement" left with
      | error text =>
          rw [hend] at hfinish
          exact Stuck.after hfinish hfront
      | ok found =>
          rw [hend] at hfinish
          simp only at hfinish ⊢
          rw [Reading.run_append hfront, hfinish]

/-- `parse_statement` accepts what the grammar derives, and reads it so. -/
theorem parseStatement_grammar {sql : Bytes} {tokens : List Token}
    (hlex : lexSql sql = .ok tokens) (statement : Statement) :
    parseStatement tokens = .ok statement <-> SqlGrammar statement tokens := by
  have houtcome := parseStatement_reads_or_stuck (lexSql_lexedTokens hlex).endsOnce
  rw [sqlGrammar_iff_run]
  cases hparse : parseStatement tokens with
  | error text =>
      rw [hparse] at houtcome
      rcases houtcome with ⟨front, bad, rest, reading, rfl, hfront, hstep, _⟩
      constructor
      · simp
      · intro hrun
        rw [Reading.run_append hfront, Reading.run, hstep] at hrun
        cases hrun
  | ok found =>
      rw [hparse] at houtcome
      simp only at houtcome
      rw [houtcome]
      constructor
      · intro h
        rw [Except.ok.inj h]
      · intro h
        rw [Reading.done.inj (Option.some.inj h)]

def sampleTokens : List Token :=
  [{ type := .identifier, text := ascii "Select", position := 0 },
    { type := .identifier, text := ascii "select", position := 7 },
    { type := .identifier, text := ascii "FROM", position := 14 },
    { type := .identifier, text := ascii "from", position := 19 },
    { type := .semicolon, text := ascii ";", position := 23 }, endToken 24]

theorem parseStatement_grammar_sample :
    SqlGrammar
      (.selectStatement
        { tableName := ascii "from"
          columns := [ascii "select"]
          selectAll := false
          condition := none })
      sampleTokens := by
  have hlex : lexSql (ascii "Select select FROM from;") = .ok sampleTokens := by
    decide
  exact (parseStatement_grammar hlex _).mp (by decide)

end Sql
end SqlCsvServer
