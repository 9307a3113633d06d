import SqlCsvServer.Sql.Rendering

/-!
# The language of `lex_sql`

A text splits into blanks, maximal words, marks and literals, in one way at most.
`lex_sql` reads the tokens of the split.  A text may also end in a literal that
nothing closes; it should be refused, and it is, unless the literal is empty or ends
in a doubled quote.
-/

namespace SqlCsvServer
namespace Sql

open Foundation

/-!
## Splits
-/

def IsWordByte (b : Byte) : Prop :=
  isAlpha b = true ∨ isDigit b = true ∨ b = 0x5F ∨ 0x80 ≤ b

/-- A piece of text that stands in front of `tail`, and the token it becomes. -/
inductive SqlPiece (index : Nat) (tail : Bytes) : Bytes -> Option Token -> Prop where
  | blank {b : Byte} (hspace : isSpace b = true) : SqlPiece index tail [b] none
  | word {word : Bytes} (hne : word ≠ []) (hword : forall b, b ∈ word -> IsWordByte b)
      (hmaximal : forall b, tail.head? = some b -> ¬ IsWordByte b) :
      SqlPiece index tail word
        (some { type := wordType word, text := word, position := index })
  | mark {symbol : Byte} {type : TokenType}
      (hsymbol : simpleTokenType symbol = some type) :
      SqlPiece index tail [symbol]
        (some { type := type, text := [symbol], position := index })
  | literal {content : Bytes} (hclosed : tail.head? ≠ some Byte.singleQuote) :
      SqlPiece index tail (sqlLiteral content)
        (some { type := .string, text := content, position := index })

/-- A text from an index on that splits into pieces, and the tokens of the split. -/
inductive SqlSplit : Nat -> Bytes -> List Token -> Prop where
  | done (index : Nat) : SqlSplit index [] [endToken index]
  | piece {index : Nat} {piece tail : Bytes} {token : Option Token}
      {tokens : List Token} (hpiece : SqlPiece index tail piece token)
      (hrest : SqlSplit (index + piece.length) tail tokens) :
      SqlSplit index (piece ++ tail) (token.toList ++ tokens)

/-- A text that splits up to a literal that nothing closes, and its content. -/
inductive SqlOpen : Nat -> Bytes -> Bytes -> Prop where
  | literal {index : Nat} {content : Bytes} :
      SqlOpen index (Byte.singleQuote :: doubledQuotes content) content
  | piece {index : Nat} {piece tail content : Bytes} {token : Option Token}
      (hpiece : SqlPiece index tail piece token)
      (hrest : SqlOpen (index + piece.length) tail content) :
      SqlOpen index (piece ++ tail) content

def LooksClosed (content : Bytes) : Prop :=
  content.getLast?.getD Byte.singleQuote = Byte.singleQuote

theorem isIdentifierContinue_iff (b : Byte) :
    isIdentifierContinue b = true <-> IsWordByte b := by
  unfold isIdentifierContinue IsWordByte
  simp only [Bool.or_eq_true, beq_iff_eq, decide_eq_true_eq, or_assoc]

/-!
## One round
-/

section Round

variable {index : Nat} {tail : Bytes}

theorem lexStringLoop_open (content : Bytes) (last : Byte) :
    lexStringLoop last (doubledQuotes content) =
      { text := content, rest := [], last := content.getLast?.getD last } := by
  induction content generalizing last with
  | nil => rfl
  | cons b content ih =>
      have hcons : doubledQuotes (b :: content) =
          (if b = Byte.singleQuote then [Byte.singleQuote, Byte.singleQuote]
            else [b]) ++ doubledQuotes content := by
        simp [doubledQuotes]
      have hlast : (b :: content).getLast?.getD last = content.getLast?.getD b := by
        rw [List.getLast?_cons]
        rfl
      rw [hcons, hlast]
      by_cases hquote : b = Byte.singleQuote
      · subst hquote
        simp only [if_true, List.cons_append, List.nil_append, lexStringLoop]
        rw [ih]
        rfl
      · simp only [hquote, if_false, List.cons_append, List.nil_append]
        rw [lexStringLoop.eq_def]
        simp only [hquote, if_false]
        rw [ih]
        rfl

theorem doubledQuotes_quote (content : Bytes) :
    doubledQuotes (Byte.singleQuote :: content) =
      Byte.singleQuote :: Byte.singleQuote :: doubledQuotes content :=
  rfl

theorem doubledQuotes_other {b : Byte} (h : b ≠ Byte.singleQuote)
    (content : Bytes) : doubledQuotes (b :: content) = b :: doubledQuotes content := by
  simp [doubledQuotes, h]

def LiteralRest (text : Bytes) : Prop :=
  (exists content tail,
      text = doubledQuotes content ++ Byte.singleQuote :: tail ∧
        tail.head? ≠ some Byte.singleQuote) ∨
    exists content, text = doubledQuotes content

theorem LiteralRest.quote {text : Bytes} (h : LiteralRest text) :
    LiteralRest (Byte.singleQuote :: Byte.singleQuote :: text) := by
  rcases h with ⟨content, tail, htext, htail⟩ | ⟨content, htext⟩
  · left
    exists Byte.singleQuote :: content, tail
    rw [doubledQuotes_quote, htext]
    exact ⟨rfl, htail⟩
  · right
    exists Byte.singleQuote :: content
    rw [doubledQuotes_quote, htext]

theorem LiteralRest.other {b : Byte} {text : Bytes} (hb : b ≠ Byte.singleQuote)
    (h : LiteralRest text) : LiteralRest (b :: text) := by
  rcases h with ⟨content, tail, htext, htail⟩ | ⟨content, htext⟩
  · left
    exists b :: content, tail
    rw [doubledQuotes_other hb, htext]
    exact ⟨rfl, htail⟩
  · right
    exists b :: content
    rw [doubledQuotes_other hb, htext]

theorem literalRest : forall text : Bytes, LiteralRest text
  | [] => .inr ⟨[], rfl⟩
  | [b] => by
      by_cases hb : b = Byte.singleQuote
      · subst hb
        exact .inl ⟨[], [], rfl, nofun⟩
      · exact (literalRest []).other hb
  | b :: next :: text => by
      by_cases hb : b = Byte.singleQuote
      · subst hb
        by_cases hnext : next = Byte.singleQuote
        · subst hnext
          exact (literalRest text).quote
        · left
          exists [], next :: text
          exact ⟨rfl, fun hhead => hnext (Option.some.inj hhead)⟩
      · exact (literalRest (next :: text)).other hb

theorem SqlPiece.lexRound {piece : Bytes} {token : Option Token}
    (h : SqlPiece index tail piece token) :
    exists b more, piece = b :: more ∧
      Sql.lexRound index b (more ++ tail) = .ok (token, tail) := by
  cases h with
  | @blank b hspace =>
      exists b, []
      constructor
      · rfl
      · rw [Sql.lexRound, if_pos hspace]
        rfl
  | word hne hword hmaximal =>
      cases piece with
      | nil => exact absurd rfl hne
      | cons b more =>
          have hall : forall c, c ∈ b :: more -> isIdentifierContinue c = true :=
            fun c hc => (isIdentifierContinue_iff c).mpr (hword c hc)
          have htail : tail.head?.any isIdentifierContinue = false := by
            cases htail : tail.head? with
            | none => rfl
            | some next =>
                rw [Option.any_some, Bool.eq_false_iff]
                intro hnext
                exact hmaximal next htail ((isIdentifierContinue_iff next).mp hnext)
          have hstart := identifierStart_of_continue b (hall b List.mem_cons_self)
          have hcut := takeWhile_word hall htail
          rw [List.cons_append] at hcut
          exists b, more
          constructor
          · rfl
          · simp only [Sql.lexRound, hstart.1, hstart.2, hcut.1, hcut.2, if_true,
              Bool.false_eq_true, if_false]
  | @mark symbol type hsymbol => exact ⟨symbol, [], rfl, lexRound_mark index tail hsymbol⟩
  | @literal content hclosed =>
      refine ⟨Byte.singleQuote, _, rfl, ?_⟩
      rw [List.append_assoc]
      exact lexRound_literal index hclosed

theorem lexRound_open (content : Bytes) :
    (LooksClosed content ->
        lexRound index Byte.singleQuote (doubledQuotes content) =
          .ok (some { type := .string, text := content, position := index }, [])) ∧
      (¬ LooksClosed content -> exists text,
        lexRound index Byte.singleQuote (doubledQuotes content) = .error text) := by
  have hspace : isSpace Byte.singleQuote = false := by decide
  have hstart : isIdentifierStart Byte.singleQuote = false := by decide
  simp only [lexRound, hspace, hstart, Bool.false_eq_true, if_false, if_true]
  unfold lexString LooksClosed
  rw [lexStringLoop_open]
  constructor
  · intro hlast
    simp only [hlast, ne_eq, not_true_eq_false, if_false]
  · intro hlast
    simp only [ne_eq, hlast, not_false_eq_true, if_true]
    exact ⟨_, rfl⟩

theorem lexRound_cases {b : Byte} {rest left : Bytes} {token : Option Token}
    (h : lexRound index b rest = .ok (token, left)) :
    (exists piece, b :: rest = piece ++ left ∧ SqlPiece index left piece token) ∨
      exists content, b :: rest = Byte.singleQuote :: doubledQuotes content ∧
        LooksClosed content ∧ left = [] ∧
          token = some { type := .string, text := content, position := index } := by
  by_cases hspace : isSpace b = true
  · rw [lexRound, if_pos hspace] at h
    cases h
    exact .inl ⟨[b], rfl, .blank hspace⟩
  · by_cases hstart : isIdentifierStart b = true
    · rw [lexRound, if_neg hspace, if_pos hstart] at h
      cases h
      left
      refine ⟨_, List.takeWhile_append_dropWhile.symm, .word ?_ ?_ ?_⟩
      · have hcontinue : isIdentifierContinue b = true := by
          revert hstart
          revert b
          decide +kernel
        rw [List.takeWhile_cons, if_pos hcontinue]
        exact List.cons_ne_nil _ _
      · intro c hc
        exact (isIdentifierContinue_iff c).mp (List.mem_takeWhile_imp hc)
      · intro c hc hword
        have hstop := List.head?_dropWhile_not isIdentifierContinue (b :: rest)
        rw [hc] at hstop
        exact absurd ((isIdentifierContinue_iff c).mpr hword) (by simpa using hstop)
    · by_cases hquote : b = Byte.singleQuote
      · subst hquote
        rcases literalRest rest with ⟨content, tail, hrest, htail⟩ | ⟨content, hrest⟩
        · rw [hrest, lexRound_literal index htail] at h
          cases h
          left
          exists sqlLiteral content
          rw [hrest]
          constructor
          · simp [sqlLiteral]
          · exact .literal htail
        · right
          exists content
          rw [hrest] at h ⊢
          by_cases hlast : LooksClosed content
          · rw [lexRound_open content |>.1 hlast] at h
            cases h
            exact ⟨rfl, hlast, rfl, rfl⟩
          · rcases (lexRound_open content).2 hlast with ⟨text, herror⟩
            rw [herror] at h
            cases h
      · rw [lexRound, if_neg hspace, if_neg hstart, if_neg hquote] at h
        cases hsymbol : simpleTokenType b with
        | none =>
            rw [hsymbol] at h
            cases h
        | some type =>
            rw [hsymbol] at h
            cases h
            exact .inl ⟨[b], rfl, .mark hsymbol⟩

end Round

/-!
## The whole text
-/

theorem lexLoop_piece {fuel index : Nat} {piece tail : Bytes} {token : Option Token}
    (hpiece : SqlPiece index tail piece token)
    (hfuel : (piece ++ tail).length ≤ fuel + 1) :
    lexLoop (fuel + 1) index (piece ++ tail) =
        (lexLoop fuel (index + piece.length) tail).map (token.toList ++ ·) ∧
      tail.length ≤ fuel := by
  rcases hpiece.lexRound with ⟨b, more, rfl, hround⟩
  have hindex : (more ++ tail).length + 1 - tail.length = (b :: more).length := by
    rw [List.length_append, List.length_cons]
    omega
  constructor
  · rw [List.cons_append, lexLoop, hround]
    simp only [hindex]
    cases lexLoop fuel (index + (b :: more).length) tail <;> rfl
  · rw [List.length_append, List.length_cons] at hfuel
    omega

theorem SqlSplit.lexLoop {index : Nat} {text : Bytes} {tokens : List Token}
    (h : SqlSplit index text tokens) :
    forall fuel, text.length ≤ fuel -> Sql.lexLoop fuel index text = .ok tokens := by
  induction h with
  | done index =>
      intro fuel _
      cases fuel <;> rfl
  | @piece index piece tail token tokens hpiece hrest ih =>
      intro fuel hfuel
      cases fuel with
      | zero =>
          rcases hpiece.lexRound with ⟨b, more, rfl, hround⟩
          exact absurd hfuel (Nat.not_succ_le_zero _)
      | succ fuel =>
          rcases lexLoop_piece hpiece hfuel with ⟨hloop, htail⟩
          rw [hloop, ih fuel htail]
          rfl

theorem SqlOpen.lexLoop {index : Nat} {text content : Bytes}
    (h : SqlOpen index text content) :
    forall fuel, text.length ≤ fuel ->
      (LooksClosed content -> exists tokens,
          Sql.lexLoop fuel index text = .ok tokens) ∧
        (¬ LooksClosed content -> exists message,
          Sql.lexLoop fuel index text = .error message) := by
  induction h with
  | @literal index content =>
      intro fuel hfuel
      cases fuel with
      | zero => exact absurd hfuel (Nat.not_succ_le_zero _)
      | succ fuel =>
          rcases @lexRound_open index content with ⟨hlooks, hopen⟩
          constructor
          · intro hlast
            rw [Sql.lexLoop, hlooks hlast]
            cases fuel <;> exact ⟨_, rfl⟩
          · intro hlast
            rcases hopen hlast with ⟨message, hround⟩
            rw [Sql.lexLoop, hround]
            exact ⟨message, rfl⟩
  | @piece index piece tail content token hpiece hrest ih =>
      intro fuel hfuel
      cases fuel with
      | zero =>
          rcases hpiece.lexRound with ⟨b, more, rfl, hround⟩
          exact absurd hfuel (Nat.not_succ_le_zero _)
      | succ fuel =>
          rcases lexLoop_piece hpiece hfuel with ⟨hloop, htail⟩
          rcases ih fuel htail with ⟨hlooks, hopen⟩
          rw [hloop]
          constructor
          · intro hlast
            rcases hlooks hlast with ⟨tokens, htokens⟩
            rw [htokens]
            exact ⟨_, rfl⟩
          · intro hlast
            rcases hopen hlast with ⟨message, hmessage⟩
            rw [hmessage]
            exact ⟨message, rfl⟩

theorem lexLoop_ok {fuel : Nat} :
    forall {index : Nat} {text : Bytes} {tokens : List Token}, text.length ≤ fuel ->
      lexLoop fuel index text = .ok tokens ->
        SqlSplit index text tokens ∨
          exists content, SqlOpen index text content ∧ LooksClosed content := by
  induction fuel with
  | zero =>
      intro index text tokens hfuel h
      cases text with
      | nil =>
          cases h
          exact .inl (.done index)
      | cons b rest => exact absurd hfuel (Nat.not_succ_le_zero _)
  | succ fuel ih =>
      intro index text tokens hfuel h
      cases text with
      | nil =>
          cases h
          exact .inl (.done index)
      | cons b rest =>
          cases hround : lexRound index b rest with
          | error message =>
              rw [lexLoop, hround] at h
              cases h
          | ok result =>
              rcases result with ⟨token, left⟩
              rcases lexRound_cases hround with
                ⟨piece, htext, hpiece⟩ | ⟨content, htext, hlooks, _⟩
              · rw [htext] at h hfuel ⊢
                rcases lexLoop_piece hpiece hfuel with ⟨hloop, hleft⟩
                rw [hloop] at h
                cases hrest : lexLoop fuel (index + piece.length) left with
                | error message =>
                    rw [hrest] at h
                    cases h
                | ok more =>
                    rw [hrest] at h
                    cases h
                    rcases ih hleft hrest with hsplit | ⟨content, hopen, hlooks⟩
                    · exact .inl (.piece hpiece hsplit)
                    · exact .inr ⟨content, .piece hpiece hopen, hlooks⟩
              · right
                exists content
                rw [htext]
                exact ⟨.literal, hlooks⟩

/--
`lex_sql` reads the tokens of a split, accepts nothing else, and refuses every text
that ends in a literal that nothing closes.
-/
def LexesItsLanguage (input : Bytes) : Prop :=
  (forall tokens, lexSql input = .ok tokens <-> SqlSplit 0 (cString input) tokens) ∧
    forall content, SqlOpen 0 (cString input) content ->
      exists message, lexSql input = .error message

/-- It does so unless the literal is empty or ends in a doubled quote. -/
theorem lexesItsLanguage_iff (input : Bytes) :
    LexesItsLanguage input <->
      forall content, SqlOpen 0 (cString input) content ->
        content ≠ [] ∧ content.getLast? ≠ some Byte.singleQuote := by
  have hlooks : forall content : Bytes,
      ¬ LooksClosed content <->
        content ≠ [] ∧ content.getLast? ≠ some Byte.singleQuote := by
    intro content
    unfold LooksClosed
    cases hlast : content.getLast? with
    | none =>
        rw [List.getLast?_eq_none_iff.mp hlast]
        simp
    | some b =>
        have hne : content ≠ [] := by
          intro hnil
          rw [hnil] at hlast
          cases hlast
        simp [hne]
  constructor
  · intro hlanguage content hopen
    rw [← hlooks]
    intro hlast
    rcases (hopen.lexLoop _ (Nat.le_refl _)).1 hlast with ⟨tokens, hok⟩
    rcases hlanguage.2 content hopen with ⟨message, herror⟩
    rw [lexSql, hok] at herror
    cases herror
  · intro hcontent
    have hclosed : forall content, SqlOpen 0 (cString input) content ->
        ¬ LooksClosed content :=
      fun content hopen => (hlooks content).mpr (hcontent content hopen)
    constructor
    · intro tokens
      constructor
      · intro hok
        rcases lexLoop_ok (Nat.le_refl _) hok with hsplit | ⟨content, hopen, hlast⟩
        · exact hsplit
        · exact absurd hlast (hclosed content hopen)
      · exact fun hsplit => hsplit.lexLoop _ (Nat.le_refl _)
    · intro content hopen
      exact (hopen.lexLoop _ (Nat.le_refl _)).2 (hclosed content hopen)

/-- `'a''` is accepted as a literal of two bytes. -/
theorem lexSql_accepts_open_literal :
    lexSql (ascii "'a''") =
        .ok [{ type := .string, text := ascii "a'", position := 0 }, endToken 4] ∧
      SqlOpen 0 (cString (ascii "'a''")) (ascii "a'") ∧
      ¬ LexesItsLanguage (ascii "'a''") := by
  have htext : cString (ascii "'a''") =
      Byte.singleQuote :: doubledQuotes (ascii "a'") := by
    decide
  have hopen : SqlOpen 0 (cString (ascii "'a''")) (ascii "a'") := by
    rw [htext]
    exact .literal
  have hok : lexSql (ascii "'a''") =
      .ok [{ type := .string, text := ascii "a'", position := 0 }, endToken 4] := by
    decide
  refine ⟨hok, hopen, ?_⟩
  intro hlanguage
  rcases hlanguage.2 _ hopen with ⟨message, herror⟩
  rw [hok] at herror
  cases herror

end Sql
end SqlCsvServer
