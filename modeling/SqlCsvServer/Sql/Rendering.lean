import SqlCsvServer.Sql.Parser

/-!
# Statements written out as SQL text

A statement has one sequence of pieces: keywords, identifiers, values and
punctuation.  A rendering spells the pieces one after another, keywords in any
letter case and values as literals with every quote doubled, with any blanks in
between that keep two words apart.  This module says what `lex_sql` makes of
such a text.
-/

namespace SqlCsvServer
namespace Sql

open Foundation
open Common

/-!
## Pieces and their spellings
-/

inductive Piece where
  | keyword (name : String)
  | identifier (text : Bytes)
  | value (text : Bytes)
  | mark (symbol : Byte)

def IsIdentifier (text : Bytes) : Prop :=
  text ≠ [] ∧ (forall b, b ∈ text -> isIdentifierContinue b = true) ∧
    isDigit (text.headD Byte.nul) = false

instance (text : Bytes) : Decidable (IsIdentifier text) :=
  inferInstanceAs (Decidable (_ ∧ _ ∧ _))

def doubledQuotes (text : Bytes) : Bytes :=
  text.flatMap fun b =>
    if b = Byte.singleQuote then [Byte.singleQuote, Byte.singleQuote] else [b]

def sqlLiteral (text : Bytes) : Bytes :=
  Byte.singleQuote :: (doubledQuotes text ++ [Byte.singleQuote])

namespace Piece

def WellFormed : Piece -> Prop
  | keyword name => IsIdentifier (ascii name)
  | identifier text => IsIdentifier text
  | value text => NulFree text
  | mark symbol => (simpleTokenType symbol).isSome = true

def isWord : Piece -> Bool
  | keyword _ => true
  | identifier _ => true
  | _ => false

def isValue : Piece -> Bool
  | value _ => true
  | _ => false

def Spells : Piece -> Bytes -> Prop
  | keyword name, spelling =>
      stringsEqualIgnoreCase spelling (ascii name) = true
  | identifier text, spelling => spelling = text
  | value text, spelling => spelling = sqlLiteral text
  | mark symbol, spelling => spelling = [symbol]

def Reads : Piece -> Token -> Prop
  | keyword name, token => isKeyword (ascii name) token = true
  | identifier text, token => token.type = .identifier ∧ token.text = text
  | value text, token => token.type = .string ∧ token.text = text
  | mark symbol, token => simpleTokenType symbol = some token.type

end Piece

def firstIs (property : Piece -> Bool) (pieces : List Piece) : Bool :=
  pieces.head?.any property

/-- Bytes that `lex_sql` skips. -/
def Blank (gap : Bytes) : Prop :=
  forall b, b ∈ gap -> isSpace b = true

instance (gap : Bytes) : Decidable (Blank gap) :=
  List.decidableBAll (fun b => isSpace b = true) gap

inductive Spelled : List Piece -> Bytes -> Prop where
  | nil : Spelled [] []
  | cons {piece : Piece} {pieces : List Piece} {spelling gap rest : Bytes}
      (hspells : piece.Spells spelling) (hblank : Blank gap)
      (hgap : piece.isWord = true -> firstIs Piece.isWord pieces = true ->
        gap ≠ [])
      (hrest : Spelled pieces rest) :
      Spelled (piece :: pieces) (spelling ++ gap ++ rest)

def Separated : List Piece -> Prop
  | [] => True
  | piece :: pieces =>
      (piece.isValue = true -> firstIs Piece.isValue pieces = false) ∧
        Separated pieces

theorem separated_append {left right : List Piece} (hleft : Separated left)
    (hright : Separated right) (hfirst : firstIs Piece.isValue right = false) :
    Separated (left ++ right) := by
  induction left with
  | nil => exact hright
  | cons piece left ih =>
      constructor
      · intro hvalue
        cases left with
        | nil => exact hfirst
        | cons next left => exact hleft.1 hvalue
      · exact ih hleft.2

/-!
## Statements as pieces
-/

def listPieces (piece : Bytes -> Piece) : List Bytes -> List Piece
  | [] => []
  | text :: texts =>
      piece text :: texts.flatMap fun text => [.mark Byte.comma, piece text]

def conditionPieces : Option WhereCondition -> List Piece
  | none => []
  | some condition =>
      [.keyword "WHERE", .identifier condition.whereColumn, .mark 0x3D,
        .value condition.whereValue]

def selectedPieces (statement : SelectStatement) : List Piece :=
  if statement.selectAll then [.mark 0x2A]
  else listPieces .identifier statement.columns

def statementPieces : Statement -> List Piece
  | .insertStatement statement =>
      [.keyword "INSERT", .keyword "INTO", .identifier statement.tableName,
          .mark 0x28] ++
        (listPieces .identifier statement.columns ++
          ([.mark 0x29, .keyword "VALUES", .mark 0x28] ++
            (listPieces .value statement.values ++ [.mark 0x29, .mark 0x3B])))
  | .selectStatement statement =>
      [.keyword "SELECT"] ++
        (selectedPieces statement ++
          ([.keyword "FROM", .identifier statement.tableName] ++
            (conditionPieces statement.condition ++ [.mark 0x3B])))

/-- A text that `statement` can be written as. -/
def Renders (statement : Statement) (sql : Bytes) : Prop :=
  exists gap text,
    Blank gap ∧ Spelled (statementPieces statement) text ∧ sql = gap ++ text

def Piece.plain : Piece -> Bytes
  | keyword name => ascii name
  | identifier text => text
  | value text => sqlLiteral text
  | mark symbol => [symbol]

def spacedText (statement : Statement) : Bytes :=
  (statementPieces statement).flatMap fun piece => piece.plain ++ [Byte.space]

theorem renders_spacedText (statement : Statement) :
    Renders statement (spacedText statement) := by
  have hspelled : forall pieces : List Piece,
      Spelled pieces
        (pieces.flatMap fun piece => piece.plain ++ [Byte.space]) := by
    intro pieces
    induction pieces with
    | nil => exact Spelled.nil
    | cons piece pieces ih =>
        have hspells : piece.Spells piece.plain := by
          cases piece with
          | keyword name => exact stringsEqualIgnoreCase_iff.mpr rfl
          | identifier text => rfl
          | value text => rfl
          | mark symbol => rfl
        have hblank : Blank [Byte.space] :=
          List.forall_mem_singleton.mpr rfl
        exact Spelled.cons hspells hblank (fun _ _ => List.cons_ne_nil _ _) ih
  exact ⟨[], _, fun _ hb => absurd hb List.not_mem_nil, hspelled _, rfl⟩

/-- The statements with a text: names are identifiers, values are C strings. -/
def Statement.Writable : Statement -> Prop
  | .insertStatement statement =>
      IsIdentifier statement.tableName ∧ statement.columns ≠ [] ∧
        (forall column, column ∈ statement.columns -> IsIdentifier column) ∧
        statement.values ≠ [] ∧
        forall value, value ∈ statement.values -> NulFree value
  | .selectStatement statement =>
      IsIdentifier statement.tableName ∧
        (if statement.selectAll then statement.columns = []
          else statement.columns ≠ []) ∧
        (forall column, column ∈ statement.columns -> IsIdentifier column) ∧
        forall condition, statement.condition = some condition ->
          IsIdentifier condition.whereColumn ∧ NulFree condition.whereValue

/-!
## Bytes of words and blanks
-/

theorem isSpace_not_identifier :
    forall b : Byte, isSpace b = true -> isIdentifierContinue b = false := by
  decide +kernel

theorem identifierStart_of_continue :
    forall b : Byte, isIdentifierContinue b = true ->
      isSpace b = false ∧ isIdentifierStart b = true := by
  decide +kernel

theorem isIdentifierContinue_of_toLower {l r : Byte} (h : toLower l = toLower r) :
    isIdentifierContinue l = isIdentifierContinue r ∧ isDigit l = isDigit r := by
  have hlower : forall b : Byte,
      isIdentifierContinue (toLower b) = isIdentifierContinue b ∧
        isDigit (toLower b) = isDigit b := by
    decide +kernel
  constructor
  · rw [← (hlower l).1, h, (hlower r).1]
  · rw [← (hlower l).2, h, (hlower r).2]

theorem mark_not_identifier :
    forall b : Byte, (simpleTokenType b).isSome = true ->
      isSpace b = false ∧ isIdentifierStart b = false ∧
        isIdentifierContinue b = false ∧ b ≠ Byte.singleQuote := by
  decide +kernel

theorem isIdentifier_of_equalIgnoreCase {spelling name : Bytes}
    (h : stringsEqualIgnoreCase spelling name = true) (hname : IsIdentifier name) :
    IsIdentifier spelling := by
  rcases hname with ⟨hne, hall, hfirst⟩
  have hlower := stringsEqualIgnoreCase_iff.mp h
  have hbytes : forall b, b ∈ spelling -> isIdentifierContinue b = true := by
    intro b hb
    have hmem : toLower b ∈ name.map toLower := by
      rw [← hlower]
      exact List.mem_map_of_mem hb
    rcases List.mem_map.mp hmem with ⟨r, hr, heq⟩
    rw [← (isIdentifierContinue_of_toLower heq).1]
    exact hall r hr
  cases name with
  | nil => exact absurd rfl hne
  | cons r name =>
      cases spelling with
      | nil => simp at hlower
      | cons l spelling =>
          have hhead : toLower l = toLower r := (List.cons.inj hlower).1
          have hdigit : isDigit l = false := by
            rw [(isIdentifierContinue_of_toLower hhead).2]
            exact hfirst
          exact ⟨by simp, hbytes, hdigit⟩

/-!
## One piece in one round
-/

theorem takeWhile_word {word tail : Bytes}
    (hword : forall b, b ∈ word -> isIdentifierContinue b = true)
    (htail : tail.head?.any isIdentifierContinue = false) :
    (word ++ tail).takeWhile isIdentifierContinue = word ∧
      (word ++ tail).dropWhile isIdentifierContinue = tail := by
  rw [List.takeWhile_append_of_pos hword, List.dropWhile_append_of_pos hword]
  cases tail with
  | nil => simp
  | cons b tail =>
      have hb : isIdentifierContinue b = false := by simpa using htail
      simp [hb]

theorem lexRound_word {b : Byte} {word tail : Bytes} (index : Nat)
    (hword : IsIdentifier (b :: word))
    (htail : tail.head?.any isIdentifierContinue = false) :
    lexRound index b (word ++ tail) =
      .ok (some { type := .identifier, text := b :: word, position := index },
        tail) := by
  have hstart := identifierStart_of_continue b
    (hword.2.1 b List.mem_cons_self)
  have hcut := takeWhile_word hword.2.1 htail
  rw [List.cons_append] at hcut
  have hdigit : isDigit b = false := hword.2.2
  have htype : wordType (b :: word) = .identifier := by
    simp [wordType, hdigit]
  simp only [lexRound, hstart.1, hstart.2, hcut.1, hcut.2, htype, if_true,
    Bool.false_eq_true, if_false]

theorem lexStringLoop_doubledQuotes {tail : Bytes}
    (htail : tail.head? ≠ some Byte.singleQuote) :
    forall (text : Bytes) (last : Byte),
      lexStringLoop last (doubledQuotes text ++ Byte.singleQuote :: tail) =
        { text := text, rest := tail, last := Byte.singleQuote } := by
  intro text
  induction text with
  | nil =>
      intro last
      cases tail with
      | nil => simp [doubledQuotes, lexStringLoop]
      | cons next tail =>
          have hnext : next ≠ Byte.singleQuote := by simpa using htail
          simp [doubledQuotes, lexStringLoop, hnext]
  | cons b text ih =>
      intro last
      have hcons : doubledQuotes (b :: text) =
          (if b = Byte.singleQuote then [Byte.singleQuote, Byte.singleQuote]
            else [b]) ++ doubledQuotes text := by
        simp [doubledQuotes]
      rw [hcons]
      by_cases hquote : b = Byte.singleQuote
      · subst hquote
        simp only [if_true, List.cons_append, List.nil_append, lexStringLoop]
        rw [ih]
        rfl
      · simp only [hquote, if_false, List.cons_append, List.nil_append]
        rw [lexStringLoop.eq_def]
        simp only [hquote, if_false]
        rw [ih]
        rfl

theorem lexRound_literal {text tail : Bytes} (index : Nat)
    (htail : tail.head? ≠ some Byte.singleQuote) :
    lexRound index Byte.singleQuote
        (doubledQuotes text ++ Byte.singleQuote :: tail) =
      .ok (some { type := .string, text := text, position := index }, tail) := by
  have hloop := lexStringLoop_doubledQuotes htail text Byte.singleQuote
  have hspace : isSpace Byte.singleQuote = false := by decide
  have hstart : isIdentifierStart Byte.singleQuote = false := by decide
  simp [lexRound, lexString, hloop, hspace, hstart]

theorem lexRound_mark {symbol : Byte} {type : TokenType} (index : Nat)
    (tail : Bytes) (h : simpleTokenType symbol = some type) :
    lexRound index symbol tail =
      .ok (some { type := type, text := [symbol], position := index },
        tail) := by
  have hmark := mark_not_identifier symbol (by rw [h]; rfl)
  simp [lexRound, hmark.1, hmark.2.1, hmark.2.2.2, h]

/-!
## The whole text
-/

def LexesTo (text : Bytes) (pieces : List Piece) : Prop :=
  forall fuel index, text.length ≤ fuel ->
    exists tokens finish,
      lexLoop fuel index text = .ok (tokens ++ [endToken finish]) ∧
        List.Forall₂ Piece.Reads pieces tokens

theorem lexesTo_nil : LexesTo [] [] := by
  intro fuel index _
  exists [], index
  constructor
  · cases fuel <;> rfl
  · exact List.Forall₂.nil

theorem lexesTo_blank {gap text : Bytes} {pieces : List Piece}
    (hblank : Blank gap) (h : LexesTo text pieces) :
    LexesTo (gap ++ text) pieces := by
  induction gap with
  | nil => exact h
  | cons b gap ih =>
      intro fuel index hfuel
      cases fuel with
      | zero => simp at hfuel
      | succ fuel =>
          have hb : isSpace b = true := hblank b List.mem_cons_self
          have hround : lexRound index b (gap ++ text) = .ok (none, gap ++ text) := by
            simp [lexRound, hb]
          have hrest := ih fun b hb => hblank b (List.mem_cons_of_mem _ hb)
          rcases hrest fuel
              (index + ((gap ++ text).length + 1 - (gap ++ text).length))
              (by simpa using hfuel) with
            ⟨tokens, finish, hloop, hreads⟩
          exists tokens, finish
          constructor
          · rw [List.cons_append, lexLoop, hround]
            simp only [hloop]
            rfl
          · exact hreads

theorem lexesTo_piece {b : Byte} {more text : Bytes} {piece : Piece}
    {pieces : List Piece} {token : Nat -> Token}
    (hround : forall index,
      lexRound index b more = .ok (some (token index), text))
    (hreads : forall index, piece.Reads (token index))
    (hlength : text.length ≤ more.length) (h : LexesTo text pieces) :
    LexesTo (b :: more) (piece :: pieces) := by
  intro fuel index hfuel
  cases fuel with
  | zero => simp at hfuel
  | succ fuel =>
      have hless : text.length ≤ fuel := by
        simp only [List.length_cons] at hfuel
        omega
      rcases h fuel (index + (more.length + 1 - text.length)) hless with
        ⟨tokens, finish, hloop, hrest⟩
      exists token index :: tokens, finish
      constructor
      · rw [lexLoop, hround]
        simp only [hloop]
        rfl
      · exact List.Forall₂.cons (hreads index) hrest

theorem identifier_head {text : Bytes} (h : IsIdentifier text) (tail : Bytes) :
    (text ++ tail).head? ≠ some Byte.singleQuote := by
  cases text with
  | nil => exact absurd rfl h.1
  | cons b text =>
      intro hquote
      simp only [List.cons_append, List.head?_cons, Option.some.injEq] at hquote
      have hb := h.2.1 b List.mem_cons_self
      rw [hquote] at hb
      exact absurd hb (by decide)

theorem identifier_nulFree {text : Bytes} (h : IsIdentifier text) :
    NulFree text := by
  intro hmem
  exact absurd (h.2.1 _ hmem) (by decide)

theorem spelling_nulFree {piece : Piece} {spelling : Bytes}
    (hspells : piece.Spells spelling) (hpiece : piece.WellFormed) :
    NulFree spelling := by
  cases piece with
  | keyword name =>
      exact identifier_nulFree (isIdentifier_of_equalIgnoreCase hspells hpiece)
  | identifier name =>
      cases hspells
      exact identifier_nulFree hpiece
  | value value =>
      cases hspells
      intro hmem
      have hnul : Byte.nul ∈ value := by
        simp only [sqlLiteral, doubledQuotes, List.mem_cons, List.mem_append,
          List.mem_flatMap, List.not_mem_nil, or_false] at hmem
        rcases hmem with hmem | ⟨b, hb, hmem⟩ | hmem
        · exact absurd hmem (by decide)
        · split at hmem
          · exact absurd hmem (by decide)
          · rw [List.mem_singleton.mp hmem]
            exact hb
        · exact absurd hmem (by decide)
      exact hpiece hnul
  | mark symbol =>
      cases hspells
      intro hmem
      have hsymbol : Byte.nul = symbol := List.mem_singleton.mp hmem
      change (simpleTokenType symbol).isSome = true at hpiece
      rw [← hsymbol] at hpiece
      exact absurd hpiece (by decide)

theorem spelled_nulFree {pieces : List Piece} {text : Bytes}
    (h : Spelled pieces text)
    (hpieces : forall piece, piece ∈ pieces -> piece.WellFormed) :
    NulFree text := by
  induction h with
  | nil => exact List.not_mem_nil
  | cons hspells hblank _ _ ih =>
      intro hmem
      simp only [List.mem_append] at hmem
      rcases hmem with (hmem | hmem) | hmem
      · exact spelling_nulFree hspells (hpieces _ List.mem_cons_self) hmem
      · exact absurd (hblank _ hmem) (by decide)
      · exact ih (fun piece hpiece =>
          hpieces piece (List.mem_cons_of_mem _ hpiece)) hmem

theorem spelled_head {pieces : List Piece} {text : Bytes}
    (h : Spelled pieces text)
    (hpieces : forall piece, piece ∈ pieces -> piece.WellFormed) :
    (firstIs Piece.isWord pieces = false ->
        text.head?.any isIdentifierContinue = false) ∧
      (firstIs Piece.isValue pieces = false ->
        text.head? ≠ some Byte.singleQuote) := by
  cases h with
  | nil => simp
  | @cons piece pieces spelling gap rest hspells hblank hgap hrest =>
      have hpiece := hpieces piece List.mem_cons_self
      cases piece with
      | keyword name =>
          have hword := isIdentifier_of_equalIgnoreCase hspells hpiece
          constructor
          · intro hfirst
            simp [firstIs, Piece.isWord] at hfirst
          · intro _
            rw [List.append_assoc]
            exact identifier_head hword (gap ++ rest)
      | identifier name =>
          have hword : IsIdentifier name := hpiece
          cases hspells
          constructor
          · intro hfirst
            simp [firstIs, Piece.isWord] at hfirst
          · intro _
            rw [List.append_assoc]
            exact identifier_head hword (gap ++ rest)
      | value value =>
          cases hspells
          constructor
          · intro _
            simp only [sqlLiteral, List.cons_append, List.head?_cons,
              Option.any_some]
            decide
          · intro hfirst
            simp [firstIs, Piece.isValue] at hfirst
      | mark symbol =>
          cases hspells
          have hmark := mark_not_identifier symbol hpiece
          constructor
          · intro _
            simpa using hmark.2.2.1
          · intro _
            simpa using hmark.2.2.2

theorem spelled_after_gap {pieces : List Piece} {gap text : Bytes}
    (hblank : Blank gap) (h : Spelled pieces text)
    (hpieces : forall piece, piece ∈ pieces -> piece.WellFormed) :
    ((firstIs Piece.isWord pieces = true -> gap ≠ []) ->
        (gap ++ text).head?.any isIdentifierContinue = false) ∧
      (firstIs Piece.isValue pieces = false ->
        (gap ++ text).head? ≠ some Byte.singleQuote) := by
  have hhead := spelled_head h hpieces
  cases gap with
  | nil =>
      constructor
      · intro hgap
        apply hhead.1
        cases hfirst : firstIs Piece.isWord pieces with
        | false => rfl
        | true => exact absurd rfl (hgap hfirst)
      · exact hhead.2
  | cons b gap =>
      have hb : isSpace b = true := hblank b List.mem_cons_self
      constructor
      · intro _
        simpa using isSpace_not_identifier b hb
      · intro _ hquote
        simp only [List.cons_append, List.head?_cons, Option.some.injEq]
          at hquote
        rw [hquote] at hb
        exact absurd hb (by decide)

theorem lexesTo_spelled {pieces : List Piece} {text : Bytes}
    (h : Spelled pieces text)
    (hpieces : forall piece, piece ∈ pieces -> piece.WellFormed)
    (hseparated : Separated pieces) :
    LexesTo text pieces := by
  induction h with
  | nil => exact lexesTo_nil
  | @cons piece pieces spelling gap rest hspells hblank hgap hrest ih =>
      have hpiece := hpieces piece List.mem_cons_self
      have hmore : forall piece, piece ∈ pieces -> piece.WellFormed :=
        fun piece hmem => hpieces piece (List.mem_cons_of_mem _ hmem)
      have htail := spelled_after_gap hblank hrest hmore
      have hleft : LexesTo (gap ++ rest) pieces :=
        lexesTo_blank hblank (ih hmore hseparated.2)
      rw [List.append_assoc]
      cases piece with
      | keyword name =>
          have hword := isIdentifier_of_equalIgnoreCase hspells hpiece
          cases spelling with
          | nil => exact absurd rfl hword.1
          | cons b spelling =>
              apply lexesTo_piece
                (fun index => lexRound_word index hword (htail.1 (hgap rfl)))
              · intro index
                change isKeyword (ascii name) _ = true
                have hspelled : stringsEqualIgnoreCase (b :: spelling)
                    (ascii name) = true := hspells
                simpa [isKeyword] using hspelled
              · simp
              · exact hleft
      | identifier name =>
          have hword : IsIdentifier name := hpiece
          cases hspells
          cases spelling with
          | nil => exact absurd rfl hword.1
          | cons b spelling =>
              apply lexesTo_piece
                (fun index => lexRound_word index hword (htail.1 (hgap rfl)))
              · intro index
                exact ⟨rfl, rfl⟩
              · simp
              · exact hleft
      | value value =>
          cases hspells
          have hquote := htail.2 (hseparated.1 rfl)
          have htext : sqlLiteral value ++ (gap ++ rest) =
              Byte.singleQuote ::
                (doubledQuotes value ++ Byte.singleQuote :: (gap ++ rest)) := by
            simp [sqlLiteral]
          rw [htext]
          apply lexesTo_piece (fun index => lexRound_literal index hquote)
          · intro index
            exact ⟨rfl, rfl⟩
          · simp
            omega
          · exact hleft
      | mark symbol =>
          cases hspells
          rcases Option.isSome_iff_exists.mp hpiece with ⟨type, htype⟩
          apply lexesTo_piece (fun index => lexRound_mark index _ htype)
          · intro index
            exact htype
          · exact Nat.le_refl _
          · exact hleft

end Sql
end SqlCsvServer
