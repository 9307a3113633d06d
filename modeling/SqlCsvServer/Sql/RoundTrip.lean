import Mathlib.Data.List.Forall2
import SqlCsvServer.Sql.Rendering

/-!
# SQL text of a statement parses back

The parser functions consume the tokens that the pieces of a statement are read
from and return what the pieces say.  Together with the lexer this makes
rendering and parsing inverse to each other.
-/

namespace SqlCsvServer
namespace Sql

open Foundation
open Common

/-!
## Consuming the tokens of pieces
-/

/--
In front of `more`, the parser function takes the tokens of `pieces` and
returns the value.  The last token is the one that closes the array.
-/
def Consumes {α : Type} (parse : Parse α) (pieces more : List Piece)
    (value : α) : Prop :=
  forall (tokens : List Token) (last : Token),
    List.Forall₂ Piece.Reads (pieces ++ more) tokens ->
      exists left,
        parse (tokens ++ [last]) = .ok (value, left ++ [last]) ∧
          List.Forall₂ Piece.Reads more left

section Consuming

variable {α β : Type} {more : List Piece}

theorem consumes_pure (value : α) :
    Consumes (pure value : Parse α) [] more value := by
  intro tokens last h
  exists tokens

theorem consumes_bind {first : Parse α} {next : α -> Parse β}
    {pieces rest : List Piece} {value : α} {result : β}
    (hfirst : Consumes first pieces (rest ++ more) value)
    (hnext : Consumes (next value) rest more result) :
    Consumes (first >>= next) (pieces ++ rest) more result := by
  intro tokens last h
  rw [List.append_assoc] at h
  rcases hfirst tokens last h with ⟨middle, hparse, hmiddle⟩
  rcases hnext middle last hmiddle with ⟨left, hrest, hleft⟩
  exists left
  constructor
  · rw [parse_bind, hparse]
    exact hrest
  · exact hleft

theorem consumes_token {parse : Parse α} {piece : Piece} {value : α}
    (h : forall token tokens, piece.Reads token ->
      parse (token :: tokens) = .ok (value, tokens)) :
    Consumes parse [piece] more value := by
  intro tokens last hreads
  cases hreads with
  | @cons _ token _ tokens hpiece hmore =>
      exists tokens
      constructor
      · exact h token _ hpiece
      · exact hmore

theorem consumes_keyword (name : String) :
    Consumes (expectKeyword name) [.keyword name] more () := by
  apply consumes_token
  intro token tokens h
  exact expectKeyword_same h

theorem consumes_identifier (text : Bytes) :
    Consumes parseIdentifier [.identifier text] more text := by
  apply consumes_token
  intro token tokens h
  rw [parseIdentifier_same h.1, h.2]

theorem consumes_value (expected : String) (text : Bytes) :
    Consumes (parseValue expected) [.value text] more text := by
  apply consumes_token
  intro token tokens h
  rw [parseValue_same expected (by rw [h.1]; rfl), h.2]

theorem mark_reads {symbol : Byte} {type : TokenType} {token : Token}
    (hsymbol : simpleTokenType symbol = some type)
    (h : (Piece.mark symbol).Reads token) : token.type = type := by
  have hread : simpleTokenType symbol = some token.type := h
  rw [hsymbol] at hread
  exact (Option.some.inj hread).symm

theorem consumes_mark {symbol : Byte} {type : TokenType} (text : String)
    (hsymbol : simpleTokenType symbol = some type) :
    Consumes (expectType type text) [.mark symbol] more () := by
  apply consumes_token
  intro token tokens h
  exact expectType_same text (mark_reads hsymbol h)

/-!
## Lists
-/

def EndsList (stop : Piece) : Prop :=
  forall token, stop.Reads token -> token.type ≠ .comma

theorem keyword_endsList (name : String) : EndsList (.keyword name) := by
  intro token h
  rw [isKeyword_type h]
  decide

theorem rparen_endsList : EndsList (.mark 0x29) := by
  intro token h
  rw [mark_reads rfl h]
  decide

variable {item : Parse Bytes} {piece : Bytes -> Piece} {stop : Piece}

theorem consumes_more_items
    (hitem : forall text more, Consumes item [piece text] more text)
    (hstop : EndsList stop) :
    forall (texts : List Bytes) (fuel : Nat), texts.length ≤ fuel ->
      Consumes (parseMoreItems item fuel)
        (texts.flatMap fun text => [.mark Byte.comma, piece text])
        (stop :: more) texts := by
  intro texts
  induction texts with
  | nil =>
      intro fuel _ tokens last h
      cases h with
      | @cons _ token _ tokens hpiece hmore =>
          have hother : token.type ≠ .comma := hstop token hpiece
          exists token :: tokens
          constructor
          · cases fuel with
            | zero => rfl
            | succ fuel =>
                rw [List.cons_append, parseMoreItems, parse_bind,
                  matchType_other hother]
                rfl
          · exact List.Forall₂.cons hpiece hmore
  | cons text texts ih =>
      intro fuel hfuel
      cases fuel with
      | zero => simp at hfuel
      | succ fuel =>
          have hloop := ih fuel (by simpa using hfuel)
          have hread : Consumes (matchType .comma) [.mark Byte.comma]
              ([piece text] ++
                ((texts.flatMap fun text => [.mark Byte.comma, piece text]) ++
                  []) ++ (stop :: more))
              true := by
            apply consumes_token
            intro token tokens h
            exact matchType_same (mark_reads rfl h)
          have hpieces :
              ((text :: texts).flatMap fun text =>
                [Piece.mark Byte.comma, piece text]) =
                [.mark Byte.comma] ++ ([piece text] ++
                  ((texts.flatMap fun text => [.mark Byte.comma, piece text]) ++
                    [])) := by
            simp
          rw [parseMoreItems, hpieces]
          apply consumes_bind hread
          rw [if_pos rfl]
          apply consumes_bind (hitem text _)
          apply consumes_bind
          · rw [List.nil_append]
            exact hloop
          · exact consumes_pure (text :: texts)

theorem flatMap_items_length (texts : List Bytes) :
    texts.length ≤
      (texts.flatMap fun text => [Piece.mark Byte.comma, piece text]).length := by
  induction texts with
  | nil => exact Nat.le_refl _
  | cons text texts ih =>
      simp only [List.flatMap_cons, List.length_append, List.length_cons]
      omega

theorem consumes_item_list
    (hitem : forall text more, Consumes item [piece text] more text)
    (hstop : EndsList stop)
    {texts : List Bytes} (hne : texts ≠ []) :
    Consumes (parseItemList item) (listPieces piece texts)
      (stop :: more) texts := by
  cases texts with
  | nil => exact absurd rfl hne
  | cons text texts =>
      intro tokens last h
      rcases hitem text _ tokens last h with ⟨middle, hfirst, hmiddle⟩
      have hfuel : texts.length ≤ (middle ++ [last]).length := by
        have hlength := hmiddle.length_eq
        have hitems := @flatMap_items_length piece texts
        rw [List.length_append]
        rw [List.append_eq, List.length_append] at hlength
        omega
      rcases consumes_more_items hitem hstop texts _ hfuel middle last
          hmiddle with
        ⟨left, hrest, hleft⟩
      exists left
      constructor
      · simp only [parseItemList, parse_bind, hfirst, parse_get, hrest, parse_pure]
      · exact hleft

end Consuming

/-!
## Statements
-/

section Statements

variable {more : List Piece}

theorem consumes_insert {statement : InsertStatement}
    (hcolumns : statement.columns ≠ []) (hvalues : statement.values ≠ []) :
    Consumes parseInsert
      ([.keyword "INSERT"] ++ ([.keyword "INTO"] ++
        ([.identifier statement.tableName] ++ ([.mark 0x28] ++
          (listPieces .identifier statement.columns ++ ([.mark 0x29] ++
            ([.keyword "VALUES"] ++ ([.mark 0x28] ++
              (listPieces .value statement.values ++ ([.mark 0x29] ++
                []))))))))))
      more statement := by
  unfold parseInsert parseIdentifierList parseValueList
  apply consumes_bind (consumes_keyword "INSERT")
  apply consumes_bind (consumes_keyword "INTO")
  apply consumes_bind (consumes_identifier _)
  apply consumes_bind (consumes_mark _ rfl)
  apply consumes_bind
    (consumes_item_list (fun text _ => consumes_identifier text)
      rparen_endsList hcolumns)
  apply consumes_bind (consumes_mark _ rfl)
  apply consumes_bind (consumes_keyword "VALUES")
  apply consumes_bind (consumes_mark _ rfl)
  apply consumes_bind
    (consumes_item_list (fun text _ => consumes_value _ text)
      rparen_endsList hvalues)
  apply consumes_bind (consumes_mark _ rfl)
  exact consumes_pure statement

theorem consumes_no_star {text : Bytes} {pieces : List Piece} :
    Consumes (matchType .star) [] (.identifier text :: pieces) false := by
  intro tokens last h
  cases h with
  | @cons _ token _ tokens hpiece hmore =>
      exists token :: tokens
      constructor
      · exact matchType_other (by rw [hpiece.1]; decide)
      · exact List.Forall₂.cons hpiece hmore

theorem consumes_star :
    Consumes (matchType .star) [.mark 0x2A] more true := by
  apply consumes_token
  intro token tokens h
  exact matchType_same (mark_reads rfl h)

theorem consumes_select_columns {statement : SelectStatement}
    (hcolumns :
      if statement.selectAll then statement.columns = []
      else statement.columns ≠ []) :
    Consumes parseSelectColumns (selectedPieces statement)
      (.keyword "FROM" :: more) (statement.selectAll, statement.columns) := by
  unfold parseSelectColumns selectedPieces
  cases hall : statement.selectAll with
  | true =>
      simp only [hall, if_true] at hcolumns ⊢
      rw [hcolumns]
      exact consumes_bind consumes_star (consumes_pure (true, []))
  | false =>
      simp only [hall, Bool.false_eq_true, if_false] at hcolumns ⊢
      have hlist : Consumes parseIdentifierList
          (listPieces .identifier statement.columns) (.keyword "FROM" :: more)
          statement.columns :=
        consumes_item_list (fun text _ => consumes_identifier text)
          (keyword_endsList "FROM") hcolumns
      have hreturn : Consumes
          (parseIdentifierList >>= fun columns => pure (false, columns))
          (listPieces .identifier statement.columns ++ [])
          (.keyword "FROM" :: more) (false, statement.columns) :=
        consumes_bind hlist (consumes_pure (false, statement.columns))
      cases hitems : statement.columns with
      | nil => exact absurd hitems hcolumns
      | cons column columns =>
          rw [hitems, List.append_nil] at hreturn
          change Consumes _ ([] ++ listPieces .identifier (column :: columns)) _ _
          apply consumes_bind consumes_no_star
          simp only [Bool.false_eq_true, if_false]
          exact hreturn

theorem mark_not_keyword {symbol : Byte} {token : Token} (keyword : Bytes)
    (h : (Piece.mark symbol).Reads token) : isKeyword keyword token = false := by
  apply isKeyword_of_other_type
  intro htype
  have hread : simpleTokenType symbol = some token.type := h
  exact (simpleTokenType_mark hread).2 htype

theorem consumes_no_connector {symbol : Byte} :
    Consumes rejectUnsupportedWhereConnector [] (.mark symbol :: more) () := by
  intro tokens last h
  cases h with
  | @cons _ token _ tokens hpiece hmore =>
      exists token :: tokens
      constructor
      · simp [rejectUnsupportedWhereConnector, mark_not_keyword _ hpiece]
      · exact List.Forall₂.cons hpiece hmore

theorem consumes_condition (condition : Option WhereCondition) {symbol : Byte} :
    Consumes parseCondition (conditionPieces condition) (.mark symbol :: more)
      condition := by
  cases condition with
  | none =>
      intro tokens last h
      cases h with
      | @cons _ token _ tokens hpiece hmore =>
          exists token :: tokens
          constructor
          · simp [parseCondition, mark_not_keyword _ hpiece]
          · exact List.Forall₂.cons hpiece hmore
  | some condition =>
      have hrest : Consumes
          (do
            let whereColumn ← parseIdentifier
            expectType .equals "expected '=' in WHERE clause"
            let whereValue ← parseConditionValue
            rejectUnsupportedWhereConnector
            return some
              { whereColumn := whereColumn, whereValue := whereValue })
          ([.identifier condition.whereColumn] ++ ([.mark 0x3D] ++
            ([.value condition.whereValue] ++ ([] ++ []))))
          (.mark symbol :: more) (some condition) := by
        apply consumes_bind (consumes_identifier _)
        apply consumes_bind (consumes_mark _ rfl)
        apply consumes_bind (consumes_value _ _)
        apply consumes_bind consumes_no_connector
        exact consumes_pure (some condition)
      intro tokens last h
      cases h with
      | @cons _ token _ tokens hpiece hmore =>
          rcases hrest tokens last hmore with ⟨left, hparse, hleft⟩
          exists left
          constructor
          · have hwhere : isKeyword (ascii "WHERE") token = true := hpiece
            rw [parseCondition, parse_bind, parse_get]
            simp only [List.cons_append, currentToken_cons, hwhere, if_true]
            rw [parse_bind, advance_cons]
            exact hparse
          · exact hleft

theorem consumes_select {statement : SelectStatement} {symbol : Byte}
    (hcolumns :
      if statement.selectAll then statement.columns = []
      else statement.columns ≠ []) :
    Consumes parseSelect
      ([.keyword "SELECT"] ++ (selectedPieces statement ++
        ([.keyword "FROM"] ++ ([.identifier statement.tableName] ++
          (conditionPieces statement.condition ++ [])))))
      (.mark symbol :: more) statement := by
  unfold parseSelect
  apply consumes_bind (consumes_keyword "SELECT")
  apply consumes_bind (consumes_select_columns hcolumns)
  apply consumes_bind (consumes_keyword "FROM")
  apply consumes_bind (consumes_identifier _)
  apply consumes_bind (consumes_condition _)
  exact consumes_pure statement

theorem parseStatement_of_body {statement : Statement} {body : List Piece}
    {tokens : List Token} (finish : Nat)
    (hbody : Consumes parseBody body [.mark 0x3B] statement)
    (hreads : List.Forall₂ Piece.Reads (body ++ [.mark 0x3B]) tokens) :
    parseStatement (tokens ++ [endToken finish]) = .ok statement := by
  rcases hbody tokens (endToken finish) hreads with ⟨left, hparse, hleft⟩
  cases hleft with
  | @cons _ token _ rest hmark hrest =>
      cases hrest
      have hsemicolon : token.type = .semicolon := mark_reads rfl hmark
      have hend : (endToken finish).type = .end := rfl
      simp only [parseStatement, parseWhole, StateT.run, parse_bind, hparse,
        List.cons_append, List.nil_append, expectType_same _ hsemicolon,
        expectType_same _ hend, parse_pure]
      rfl

theorem consumes_insert_body {statement : InsertStatement} {pieces : List Piece}
    (h : Consumes parseInsert (.keyword "INSERT" :: pieces) more statement) :
    Consumes parseBody (.keyword "INSERT" :: pieces) more
      (.insertStatement statement) := by
  intro tokens last hreads
  rcases h tokens last hreads with ⟨left, hparse, hleft⟩
  exists left
  cases hreads with
  | @cons _ token _ tokens hpiece hmore =>
      have hinsert : isKeyword (ascii "INSERT") token = true := hpiece
      constructor
      · simp only [List.cons_append] at hparse ⊢
        simp [parseBody, hinsert, hparse]
      · exact hleft

theorem consumes_select_body {statement : SelectStatement} {pieces : List Piece}
    (h : Consumes parseSelect (.keyword "SELECT" :: pieces) more statement) :
    Consumes parseBody (.keyword "SELECT" :: pieces) more
      (.selectStatement statement) := by
  intro tokens last hreads
  rcases h tokens last hreads with ⟨left, hparse, hleft⟩
  exists left
  cases hreads with
  | @cons _ token _ tokens hpiece hmore =>
      have hselect : isKeyword (ascii "SELECT") token = true := hpiece
      have hinsert : isKeyword (ascii "INSERT") token = false := by
        cases hkeyword : isKeyword (ascii "INSERT") token with
        | false => rfl
        | true => exact absurd (isKeyword_unique hkeyword hselect) (by decide)
      constructor
      · simp only [List.cons_append] at hparse ⊢
        simp [parseBody, hinsert, hselect, hparse]
      · exact hleft

theorem parseStatement_reads {statement : Statement} (h : statement.Writable)
    {tokens : List Token} (finish : Nat)
    (hreads : List.Forall₂ Piece.Reads (statementPieces statement) tokens) :
    parseStatement (tokens ++ [endToken finish]) = .ok statement := by
  cases statement with
  | insertStatement statement =>
      have hinsert : Consumes parseInsert _ [.mark 0x3B] statement :=
        consumes_insert h.2.1 h.2.2.2.1
      apply parseStatement_of_body finish (consumes_insert_body hinsert)
      simpa [statementPieces] using hreads
  | selectStatement statement =>
      have hselect : Consumes parseSelect _ [.mark 0x3B] statement :=
        consumes_select h.2.1
      apply parseStatement_of_body finish (consumes_select_body hselect)
      simpa [statementPieces] using hreads

end Statements

/-!
## The round trip
-/

theorem listPieces_wellFormed {piece : Bytes -> Piece} {texts : List Bytes}
    (h : forall text, text ∈ texts -> (piece text).WellFormed) :
    forall item, item ∈ listPieces piece texts -> item.WellFormed := by
  cases texts with
  | nil => exact fun item hitem => absurd hitem List.not_mem_nil
  | cons text texts =>
      intro item hitem
      cases hitem with
      | head => exact h text List.mem_cons_self
      | tail _ hitem =>
          rcases List.mem_flatMap.mp hitem with ⟨other, hother, hitem⟩
          simp only [List.mem_cons, List.not_mem_nil, or_false] at hitem
          rcases hitem with rfl | rfl
          · change (simpleTokenType Byte.comma).isSome = true
            decide
          · exact h other (List.mem_cons_of_mem _ hother)

theorem listPieces_separated (piece : Bytes -> Piece) (texts : List Bytes) :
    Separated (listPieces piece texts) := by
  have hmore : forall texts : List Bytes,
      Separated (texts.flatMap fun text => [.mark Byte.comma, piece text]) ∧
        firstIs Piece.isValue
          (texts.flatMap fun text => [.mark Byte.comma, piece text]) = false := by
    intro texts
    induction texts with
    | nil => exact ⟨trivial, rfl⟩
    | cons text texts ih =>
        constructor
        · exact ⟨fun h => absurd h (by decide), fun _ => ih.2, ih.1⟩
        · rfl
  cases texts with
  | nil => trivial
  | cons text texts => exact ⟨fun _ => (hmore texts).2, (hmore texts).1⟩

theorem statementPieces_wellFormed {statement : Statement}
    (h : statement.Writable) :
    forall piece, piece ∈ statementPieces statement -> piece.WellFormed := by
  have hkeyword : forall name, name ∈ ["INSERT", "INTO", "VALUES", "SELECT",
      "FROM", "WHERE"] -> (Piece.keyword name).WellFormed := by
    intro name hname
    change IsIdentifier (ascii name)
    revert name
    decide +kernel
  have hmark : forall symbol, symbol ∈ [0x28, 0x29, 0x2A, 0x3B, 0x3D] ->
      (Piece.mark symbol).WellFormed := by
    intro symbol hsymbol
    change (simpleTokenType symbol).isSome = true
    revert symbol
    decide +kernel
  intro piece hpiece
  cases statement with
  | insertStatement statement =>
      rcases h with ⟨htable, _, hcolumns, _, hvalues⟩
      simp only [statementPieces, List.mem_append, List.mem_cons,
        List.not_mem_nil, or_false] at hpiece
      rcases hpiece with (rfl | rfl | rfl | rfl) | hpiece |
        (rfl | rfl | rfl) | hpiece | rfl | rfl
      · exact hkeyword _ (by decide)
      · exact hkeyword _ (by decide)
      · exact htable
      · exact hmark _ (by decide)
      · exact listPieces_wellFormed hcolumns piece hpiece
      · exact hmark _ (by decide)
      · exact hkeyword _ (by decide)
      · exact hmark _ (by decide)
      · exact listPieces_wellFormed hvalues piece hpiece
      · exact hmark _ (by decide)
      · exact hmark _ (by decide)
  | selectStatement statement =>
      rcases h with ⟨htable, _, hcolumns, hcondition⟩
      simp only [statementPieces, List.mem_append, List.mem_cons,
        List.not_mem_nil, or_false] at hpiece
      rcases hpiece with rfl | hpiece | (rfl | rfl) | hpiece | rfl
      · exact hkeyword _ (by decide)
      · unfold selectedPieces at hpiece
        split at hpiece
        · rw [List.mem_singleton] at hpiece
          rw [hpiece]
          exact hmark _ (by decide)
        · exact listPieces_wellFormed hcolumns piece hpiece
      · exact hkeyword _ (by decide)
      · exact htable
      · cases hwhere : statement.condition with
        | none => simp [hwhere, conditionPieces] at hpiece
        | some condition =>
            simp only [hwhere, conditionPieces, List.mem_cons,
              List.not_mem_nil, or_false] at hpiece
            have hparts := hcondition condition hwhere
            rcases hpiece with rfl | rfl | rfl | rfl
            · exact hkeyword _ (by decide)
            · exact hparts.1
            · exact hmark _ (by decide)
            · exact hparts.2
      · exact hmark _ (by decide)

theorem statementPieces_separated (statement : Statement) :
    Separated (statementPieces statement) := by
  have hno : forall {piece : Piece} {pieces : List Piece},
      piece.isValue = false -> Separated pieces ->
        Separated (piece :: pieces) := by
    intro piece pieces hpiece hpieces
    exact ⟨fun h => absurd h (by simp [hpiece]), hpieces⟩
  cases statement with
  | insertStatement statement =>
      have hvalues : Separated
          (listPieces .value statement.values ++ [.mark 0x29, .mark 0x3B]) :=
        separated_append (listPieces_separated .value statement.values)
          (hno rfl (hno rfl trivial)) rfl
      have hmiddle : Separated ([.mark 0x29, .keyword "VALUES", .mark 0x28] ++
          (listPieces .value statement.values ++ [.mark 0x29, .mark 0x3B])) :=
        hno rfl (hno rfl (hno rfl hvalues))
      have hcolumns := separated_append
        (listPieces_separated .identifier statement.columns) hmiddle rfl
      exact hno rfl (hno rfl (hno rfl (hno rfl hcolumns)))
  | selectStatement statement =>
      have hcondition : Separated
          (conditionPieces statement.condition ++ [.mark 0x3B]) := by
        cases statement.condition with
        | none => exact hno rfl trivial
        | some condition =>
            exact hno rfl (hno rfl (hno rfl ⟨fun _ => rfl, hno rfl trivial⟩))
      have hfrom : Separated
          ([.keyword "FROM", .identifier statement.tableName] ++
            (conditionPieces statement.condition ++ [.mark 0x3B])) :=
        hno rfl (hno rfl hcondition)
      have hselected : Separated (selectedPieces statement) := by
        unfold selectedPieces
        split
        · exact hno rfl trivial
        · exact listPieces_separated .identifier statement.columns
      have hall := separated_append hselected hfrom rfl
      exact hno rfl hall

/--
Whatever blanks and letter cases a statement is written with, `lex_sql` and
`parse_statement` make the same statement of the text again.
-/
theorem parse_rendered {statement : Statement} (h : statement.Writable)
    {sql : Bytes} (hrenders : Renders statement sql) :
    exists tokens,
      lexSql sql = .ok tokens ∧ parseStatement tokens = .ok statement := by
  rcases hrenders with ⟨gap, text, hblank, hspelled, rfl⟩
  have hpieces := statementPieces_wellFormed h
  have hlexes : LexesTo (gap ++ text) (statementPieces statement) :=
    lexesTo_blank hblank
      (lexesTo_spelled hspelled hpieces (statementPieces_separated statement))
  have hnul : NulFree (gap ++ text) := by
    intro hmem
    rcases List.mem_append.mp hmem with hmem | hmem
    · exact absurd (hblank _ hmem) (by decide)
    · exact spelled_nulFree hspelled hpieces hmem
  rcases hlexes (gap ++ text).length 0 (Nat.le_refl _) with
    ⟨tokens, finish, hloop, hreads⟩
  exists tokens ++ [endToken finish]
  constructor
  · rw [lexSql, cString_eq_self hnul]
    exact hloop
  · exact parseStatement_reads h finish hreads

def sampleSelect : Statement :=
  .selectStatement
    { tableName := ascii "t"
      columns := [ascii "id", ascii "n"]
      selectAll := false
      condition := some { whereColumn := ascii "n", whereValue := ascii "it's" } }

theorem parse_rendered_sample :
    spacedText sampleSelect =
        ascii "SELECT id , n FROM t WHERE n = 'it''s' ; " ∧
      exists tokens,
        lexSql (spacedText sampleSelect) = .ok tokens ∧
          parseStatement tokens = .ok sampleSelect := by
  constructor
  · decide +kernel
  · have hwritable : sampleSelect.Writable := by
      refine ⟨by decide +kernel, by decide, by decide +kernel, ?_⟩
      rintro _ ⟨⟩
      decide +kernel
    exact parse_rendered hwritable (renders_spacedText sampleSelect)

end Sql
end SqlCsvServer
