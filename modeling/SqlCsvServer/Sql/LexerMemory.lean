import SqlCsvServer.Foundation.GrowingBlock
import SqlCsvServer.Sql.Lexer

/-!
# The lexer in memory

The functions of `sql/lexer.c` once more, now with the index into the C string and
with the blocks they allocate.  An access outside of either has no outcome.
-/

namespace SqlCsvServer
namespace Sql

open Foundation

/-!
## The functions on memory
-/

/-- What `malloc` and `realloc` leave in new cells. -/
structure FreshCells where
  byte : Nat -> Byte
  token : Nat -> Token

/-- The buffer of `lex_string` grows where `length + 1 >= capacity`. -/
def stringGrowth : Growth := Growth.whenOneLeft 16

/-- The array of `push_token` grows where `count == capacity`. -/
def tokenGrowth : Growth := Growth.whenFull 8

section Memory

variable (fresh : FreshCells) (input : Bytes)

def pushToken (tokens : Growing Token) (token : Token) : Option (Growing Token) :=
  tokens.put tokenGrowth fresh.token token

/-- The loop of `lex_word`: the index behind the word. -/
def wordEnd (index : Nat) : Option Nat :=
  scanWhile isIdentifierContinue input (input.length + 1) index

def copyBytes (start : Nat) : Nat -> Option Bytes
  | 0 => some []
  | length + 1 =>
      (byteAt input start).bind fun b =>
        (copyBytes (start + 1) length).map fun copied => b :: copied

/-- `lex_word`: its token, and the index behind it. -/
def lexWordAt (index : Nat) : Option (Token × Nat) :=
  (wordEnd input index).bind fun stop =>
    (copyBytes input index (stop - index)).bind fun copied =>
      (storeAll (reallocate fresh.byte [] (stop - index + 1)) 0 copied).bind fun written =>
        (store written.1 (stop - index) Byte.nul).bind fun buffer =>
          (blockString buffer).map fun word =>
            ({ type := wordType word, text := word, position := index }, stop)

/-- The loop of `lex_string`: the index, and the buffer. -/
def lexStringLoopAt : Nat -> Nat -> Growing Byte -> Option (Nat × Growing Byte)
  | 0, _, _ => none
  | fuel + 1, index, buffer =>
      (byteAt input index).bind fun current =>
        if current = Byte.nul then some (index, buffer)
        else if current = Byte.singleQuote then
          (byteAt input (index + 1)).bind fun next =>
            if next = Byte.singleQuote then
              (buffer.put stringGrowth fresh.byte Byte.singleQuote).bind fun buffer =>
                lexStringLoopAt fuel (index + 2) buffer
            else some (index + 1, buffer)
        else
          (buffer.put stringGrowth fresh.byte current).bind fun buffer =>
            lexStringLoopAt fuel (index + 1) buffer

def finishedText (buffer : Growing Byte) : Option Bytes :=
  if buffer.cells = [] then some []
  else buffer.terminate.bind fun buffer => blockString buffer.cells

/-- `lex_string` on the opening quote at `start`. -/
def lexStringAt (start : Nat) : Option (Except Bytes (Token × Nat)) :=
  (lexStringLoopAt fresh input (input.length + 1) (start + 1) Growing.null).bind
    fun lexed =>
      (byteAt input (lexed.1 - 1)).bind fun last =>
        if last ≠ Byte.singleQuote then
          some (.error (Common.message
            (ascii "unterminated string literal at position " ++ decimalNat start)))
        else
          (finishedText lexed.2).map fun text =>
            .ok ({ type := .string, text := text, position := start }, lexed.1)

/-- One round of `lex_sql`: its token, if any, and the next index. -/
def lexRoundAt (index : Nat) (current : Byte) :
    Option (Except Bytes (Option Token × Nat)) :=
  if isSpace current then some (.ok (none, index + 1))
  else if isIdentifierStart current then
    (lexWordAt fresh input index).map fun lexed => .ok (some lexed.1, lexed.2)
  else if current = Byte.singleQuote then
    (lexStringAt fresh input index).map fun lexed =>
      lexed.map fun lexed => (some lexed.1, lexed.2)
  else
    match simpleTokenType current with
    | some type =>
        some (.ok
          (some { type := type, text := [current], position := index }, index + 1))
    | none =>
        some (.error (Common.message
          (ascii "unexpected character '" ++ [current] ++
            ascii "' at position " ++ decimalNat index)))

def pushRound (tokens : Growing Token) : Option Token -> Option (Growing Token)
  | none => some tokens
  | some token => pushToken fresh tokens token

/-- The loop of `lex_sql`. -/
def lexLoopAt : Nat -> Nat -> Growing Token -> Option (Except Bytes (Growing Token))
  | 0, _, _ => none
  | fuel + 1, index, tokens =>
      (byteAt input index).bind fun current =>
        if current = Byte.nul then
          (pushToken fresh tokens (endToken index)).map .ok
        else
          (lexRoundAt fresh input index current).bind fun
            | .error text => some (.error text)
            | .ok lexed =>
                (pushRound fresh tokens lexed.1).bind fun tokens =>
                  lexLoopAt fuel lexed.2 tokens

/-- `lex_sql` on a C string. -/
def lexSqlAt : Option (Except Bytes (List Token)) :=
  (lexLoopAt fresh input (input.length + 1) 0 Growing.null).map fun lexed =>
    lexed.map fun tokens => tokens.cells.take tokens.count

end Memory

/-!
## Words
-/

theorem stringGrowth_leaves : stringGrowth.Leaves 1 :=
  Growth.whenOneLeft_leaves (by decide)

theorem tokenGrowth_leaves : tokenGrowth.Leaves 0 :=
  Growth.whenFull_leaves (by decide)

theorem isIdentifierContinue_nul : isIdentifierContinue Byte.nul = false := by
  decide

section Word

variable {fresh : FreshCells} {input word rest : Bytes} {index : Nat}

theorem wordEnd_eq (hcursor : Cursor input index (word ++ rest))
    (hword : forall b, b ∈ word -> isIdentifierContinue b = true)
    (hrest : forall b, rest.head? = some b -> isIdentifierContinue b = false) :
    wordEnd input index = some (index + word.length) := by
  have hlength := hcursor.length_eq
  rcases hcursor.scanWhile isIdentifierContinue_nul
    (Nat.lt_succ_of_le (hlength ▸ Nat.le_add_left _ _)) with ⟨next, hscan, _, hbehind⟩
  have hdrop : (word ++ rest).dropWhile isIdentifierContinue = rest := by
    rw [List.dropWhile_append_of_pos hword]
    cases rest with
    | nil => rfl
    | cons b rest => rw [List.dropWhile_cons, hrest b rfl]; rfl
  rw [hdrop] at hbehind
  have hnext := hbehind.length_eq
  rw [List.length_append] at hlength
  have hstop : next = index + word.length := by omega
  unfold wordEnd
  rw [hscan, hstop]

theorem copyBytes_eq :
    forall {word : Bytes} {index : Nat}, Cursor input index (word ++ rest) ->
      copyBytes input index word.length = some word := by
  intro word
  induction word with
  | nil => exact fun _ => rfl
  | cons b word ih =>
      intro index hcursor
      rw [List.length_cons, copyBytes, hcursor.read, Option.bind_some, ih hcursor.next]
      rfl

theorem lexWordAt_eq (hcursor : Cursor input index (word ++ rest))
    (hword : forall b, b ∈ word -> isIdentifierContinue b = true)
    (hrest : forall b, rest.head? = some b -> isIdentifierContinue b = false) :
    lexWordAt fresh input index =
      some ({ type := wordType word, text := word, position := index },
        index + word.length) := by
  have hnul : NulFree word := by
    intro hmem
    have hcontinue := hword _ hmem
    rw [isIdentifierContinue_nul] at hcontinue
    cases hcontinue
  have hlength : (reallocate fresh.byte [] (word.length + 1)).length = word.length + 1 := by
    simp [reallocate]
  rcases @storeAll_behind _ word (reallocate fresh.byte [] (word.length + 1)) []
    List.nil_prefix (by rw [hlength, List.length_nil]; omega) with
    ⟨written, hwritten, hprefix, hsame⟩
  rw [List.length_nil, Nat.zero_add] at hwritten
  rw [List.nil_append] at hprefix
  have hlast := store_last hprefix Byte.nul (hsame.trans hlength)
  unfold lexWordAt
  rw [wordEnd_eq hcursor hword hrest, Option.bind_some,
    Nat.add_sub_cancel_left, copyBytes_eq hcursor, Option.bind_some, hwritten,
    Option.bind_some, hlast, Option.bind_some,
    blockString_of_prefix hnul List.prefix_rfl]
  rfl

end Word

/-!
## String literals
-/

section Literal

variable {fresh : FreshCells} {input : Bytes}

theorem lexStringLoop_last (last : Byte) :
    lexStringLoop last [Byte.singleQuote] =
      { text := [], rest := [], last := Byte.singleQuote } := by
  rw [lexStringLoop.eq_def]
  simp

theorem lexStringLoop_pair (last : Byte) (more : Bytes) :
    lexStringLoop last (Byte.singleQuote :: Byte.singleQuote :: more) =
      (lexStringLoop Byte.singleQuote more).push Byte.singleQuote := by
  rw [lexStringLoop.eq_def]
  simp

theorem lexStringLoop_close (last : Byte) {next : Byte} (hnext : next ≠ Byte.singleQuote)
    (more : Bytes) :
    lexStringLoop last (Byte.singleQuote :: next :: more) =
      { text := [], rest := next :: more, last := Byte.singleQuote } := by
  rw [lexStringLoop.eq_def]
  simp [hnext]

theorem lexStringLoop_other (last : Byte) {current : Byte}
    (hcurrent : current ≠ Byte.singleQuote) (rest : Bytes) :
    lexStringLoop last (current :: rest) =
      (lexStringLoop current rest).push current := by
  rw [lexStringLoop.eq_def]
  simp [hcurrent]

/-- What the loop of `lex_string` leaves, as the functional loop says. -/
structure LexedAt (input : Bytes) (index : Nat) (front : Bytes) (lexed : LexedString)
    (result : Nat × Growing Byte) : Prop where
  moved : index ≤ result.1
  nulFree : NulFree (front ++ lexed.text)
  cursor : Cursor input result.1 lexed.rest
  last : byteAt input (result.1 - 1) = some lexed.last
  text : Holds 1 (front ++ lexed.text) result.2

theorem LexedAt.push {index later : Nat} {front : Bytes} {current : Byte}
    {lexed : LexedString} {result : Nat × Growing Byte}
    (h : LexedAt input later (front ++ [current]) lexed result) (hlater : index ≤ later) :
    LexedAt input index front (lexed.push current) result where
  moved := Nat.le_trans hlater h.moved
  nulFree := by simpa [LexedString.push] using h.nulFree
  cursor := h.cursor
  last := h.last
  text := by simpa [LexedString.push] using h.text

theorem lexStringLoopAt_eq (hinput : NulFree input) {fuel : Nat} :
    forall {rest front : Bytes} {last : Byte} {index : Nat} {buffer : Growing Byte},
      Cursor input index rest -> byteAt input (index - 1) = some last ->
        Holds 1 front buffer -> NulFree front -> rest.length < fuel ->
          exists result, lexStringLoopAt fresh input fuel index buffer = some result ∧
            LexedAt input index front (lexStringLoop last rest) result := by
  induction fuel with
  | zero => exact fun _ _ _ _ hfuel => absurd hfuel (Nat.not_lt_zero _)
  | succ fuel ih =>
      intro rest front last index buffer hcursor hlast hholds hfront hfuel
      unfold lexStringLoopAt
      cases rest with
      | nil =>
          rw [hcursor.read_end, Option.bind_some, if_pos rfl]
          rw [lexStringLoop]
          exact ⟨_, rfl, Nat.le_refl _, by rwa [List.append_nil], hcursor, hlast,
            by rwa [List.append_nil]⟩
      | cons current rest =>
          rw [hcursor.read, Option.bind_some, if_neg (hcursor.ne_nul hinput)]
          rw [List.length_cons] at hfuel
          have hpushed : NulFree (front ++ [current]) :=
            nulFree_push hfront (hcursor.ne_nul hinput)
          by_cases hquote : current = Byte.singleQuote
          · subst hquote
            rw [if_pos rfl]
            cases rest with
            | nil =>
                have hnul : Byte.nul ≠ Byte.singleQuote := by decide
                rw [hcursor.next.read_end, Option.bind_some, if_neg hnul]
                rw [lexStringLoop_last]
                exact ⟨_, rfl, Nat.le_succ _, by rwa [List.append_nil], hcursor.next,
                  hcursor.read, by rwa [List.append_nil]⟩
            | cons next more =>
                rw [hcursor.next.read, Option.bind_some]
                by_cases hpair : next = Byte.singleQuote
                · subst hpair
                  rcases hholds.put stringGrowth_leaves fresh.byte Byte.singleQuote with
                    ⟨buffer, hput, hmore, _⟩
                  rw [if_pos rfl, hput, Option.bind_some]
                  rcases ih hcursor.next.next hcursor.next.read hmore hpushed
                    (by rw [List.length_cons] at hfuel; omega) with
                    ⟨result, hresult, hlexed⟩
                  refine ⟨result, hresult, ?_⟩
                  rw [lexStringLoop_pair]
                  exact hlexed.push (by omega)
                · rw [if_neg hpair]
                  refine ⟨_, rfl, ?_⟩
                  rw [lexStringLoop_close last hpair]
                  exact ⟨Nat.le_succ _, by rwa [List.append_nil], hcursor.next,
                    hcursor.read, by rwa [List.append_nil]⟩
          · rcases hholds.put stringGrowth_leaves fresh.byte current with
              ⟨buffer, hput, hmore, _⟩
            rw [if_neg hquote, hput, Option.bind_some]
            rcases ih hcursor.next hcursor.read hmore hpushed (by omega) with
              ⟨result, hresult, hlexed⟩
            refine ⟨result, hresult, ?_⟩
            rw [lexStringLoop_other last hquote]
            exact hlexed.push (Nat.le_succ _)

theorem finishedText_eq {text : Bytes} {buffer : Growing Byte} (hholds : Holds 1 text buffer)
    (htext : NulFree text) : finishedText buffer = some text := by
  unfold finishedText
  by_cases hnull : buffer.cells = []
  · rw [if_pos hnull, hholds.items_nil hnull]
  · rcases hholds.terminate hnull with ⟨next, hnext, _, hprefix⟩
    rw [if_neg hnull, hnext, Option.bind_some, blockString_of_prefix htext hprefix]

theorem lexStringAt_eq (hinput : NulFree input) {rest : Bytes} {start : Nat}
    (hcursor : Cursor input start (Byte.singleQuote :: rest)) :
    exists next, start < next ∧
      lexStringAt fresh input start =
        some ((lexString start rest).map fun lexed => (lexed.1, next)) ∧
      Cursor input next (lexStringLoop Byte.singleQuote rest).rest := by
  have hlength := hcursor.next.length_eq
  rcases @lexStringLoopAt_eq fresh input hinput (input.length + 1) rest []
    Byte.singleQuote (start + 1) Growing.null hcursor.next hcursor.read Holds.null
    List.not_mem_nil (by omega) with ⟨result, hresult, hlexed⟩
  have hnulFree := hlexed.nulFree
  have htext := hlexed.text
  rw [List.nil_append] at hnulFree htext
  refine ⟨result.1, hlexed.moved, ?_, hlexed.cursor⟩
  unfold lexStringAt lexString
  rw [hresult, Option.bind_some, hlexed.last, Option.bind_some]
  simp only
  split
  · rfl
  · rw [finishedText_eq htext hnulFree]
    rfl

end Literal

/-!
## The whole text
-/

section Whole

variable {fresh : FreshCells} {input : Bytes}

structure RoundAt (fresh : FreshCells) (input : Bytes) (index : Nat) (current : Byte)
    (token : Option Token) (left : Bytes) (next : Nat) : Prop where
  moved : index < next
  result : lexRoundAt fresh input index current = some (.ok (token, next))
  cursor : Cursor input next left

theorem isIdentifierContinue_of_start {b : Byte} (h : isIdentifierStart b = true) :
    isIdentifierContinue b = true := by
  revert b
  decide +kernel

theorem lexRoundAt_ok (hinput : NulFree input) {index : Nat} {current : Byte}
    {rest left : Bytes} {token : Option Token}
    (hcursor : Cursor input index (current :: rest))
    (hround : lexRound index current rest = .ok (token, left)) :
    exists next, RoundAt fresh input index current token left next := by
  unfold lexRound at hround
  by_cases hspace : isSpace current = true
  · rw [if_pos hspace] at hround
    cases hround
    exact ⟨index + 1, Nat.lt_succ_self _, by rw [lexRoundAt, if_pos hspace], hcursor.next⟩
  · rw [if_neg hspace] at hround
    by_cases hstart : isIdentifierStart current = true
    · rw [if_pos hstart] at hround
      cases hround
      have hsplit : (current :: rest).takeWhile isIdentifierContinue ++
          (current :: rest).dropWhile isIdentifierContinue = current :: rest :=
        List.takeWhile_append_dropWhile
      have hword : Cursor input index ((current :: rest).takeWhile isIdentifierContinue ++
          (current :: rest).dropWhile isIdentifierContinue) := hsplit.symm ▸ hcursor
      have hstop : forall b,
          ((current :: rest).dropWhile isIdentifierContinue).head? = some b ->
            isIdentifierContinue b = false := by
        intro b hb
        have hhead := List.head?_dropWhile_not isIdentifierContinue (current :: rest)
        rw [hb] at hhead
        simpa using hhead
      refine ⟨_, ?_, ?_, hword.skip⟩
      · rw [List.takeWhile_cons, if_pos (isIdentifierContinue_of_start hstart),
          List.length_cons]
        omega
      · rw [lexRoundAt, if_neg hspace, if_pos hstart,
          lexWordAt_eq hword (fun b hb => List.mem_takeWhile_imp hb) hstop]
        rfl
    · rw [if_neg hstart] at hround
      by_cases hquote : current = Byte.singleQuote
      · subst hquote
        rw [if_pos rfl] at hround
        rcases @lexStringAt_eq fresh input hinput rest index hcursor with
          ⟨next, hmoved, hresult, hleft⟩
        cases hlexed : lexString index rest with
        | error text =>
            rw [hlexed] at hround
            cases hround
        | ok lexed =>
            rw [hlexed] at hround hresult
            cases hround
            refine ⟨next, hmoved, ?_, ?_⟩
            · rw [lexRoundAt, if_neg hspace, if_neg hstart, if_pos rfl, hresult]
              rfl
            · unfold lexString at hlexed
              simp only at hlexed
              split at hlexed
              · cases hlexed
              · cases hlexed
                exact hleft
      · rw [if_neg hquote] at hround
        cases htype : simpleTokenType current with
        | none =>
            rw [htype] at hround
            cases hround
        | some type =>
            rw [htype] at hround
            cases hround
            refine ⟨index + 1, Nat.lt_succ_self _, ?_, hcursor.next⟩
            rw [lexRoundAt, if_neg hspace, if_neg hstart, if_neg hquote, htype]

theorem lexRoundAt_error (hinput : NulFree input) {index : Nat} {current : Byte}
    {rest text : Bytes} (hcursor : Cursor input index (current :: rest))
    (hround : lexRound index current rest = .error text) :
    lexRoundAt fresh input index current = some (.error text) := by
  unfold lexRound at hround
  by_cases hspace : isSpace current = true
  · rw [if_pos hspace] at hround
    cases hround
  · rw [if_neg hspace] at hround
    by_cases hstart : isIdentifierStart current = true
    · rw [if_pos hstart] at hround
      cases hround
    · rw [if_neg hstart] at hround
      rw [lexRoundAt, if_neg hspace, if_neg hstart]
      by_cases hquote : current = Byte.singleQuote
      · subst hquote
        rw [if_pos rfl] at hround
        rcases @lexStringAt_eq fresh input hinput rest index hcursor with
          ⟨next, _, hresult, _⟩
        cases hlexed : lexString index rest with
        | error found =>
            rw [hlexed] at hround hresult
            cases hround
            rw [if_pos rfl, hresult]
            rfl
        | ok lexed =>
            rw [hlexed] at hround
            cases hround
      · rw [if_neg hquote] at hround
        rw [if_neg hquote]
        cases htype : simpleTokenType current with
        | none =>
            rw [htype] at hround
            cases hround
            rfl
        | some type =>
            rw [htype] at hround
            cases hround

theorem pushRound_holds {items : List Token} {tokens : Growing Token}
    (hholds : Holds 0 items tokens) (token : Option Token) :
    exists next, pushRound fresh tokens token = some next ∧
      Holds 0 (items ++ token.toList) next := by
  cases token with
  | none => exact ⟨tokens, rfl, by rwa [Option.toList_none, List.append_nil]⟩
  | some token =>
      rcases hholds.put tokenGrowth_leaves fresh.token token with ⟨next, hnext, hmore, _⟩
      exact ⟨next, hnext, hmore⟩

theorem lexLoopAt_end {fuel index : Nat} {items : List Token} {tokens : Growing Token}
    (hcursor : Cursor input index []) (hholds : Holds 0 items tokens) :
    exists block, lexLoopAt fresh input (fuel + 1) index tokens = some (.ok block) ∧
      Holds 0 (items ++ [endToken index]) block := by
  rcases hholds.put tokenGrowth_leaves fresh.token (endToken index) with
    ⟨block, hput, hmore, _⟩
  refine ⟨block, ?_, hmore⟩
  rw [lexLoopAt, hcursor.read_end, Option.bind_some, if_pos rfl, pushToken, hput]
  rfl

theorem lexLoopAt_eq (hinput : NulFree input) {fuel : Nat} :
    forall {rest : Bytes} {index : Nat} {items : List Token} {tokens : Growing Token},
      Cursor input index rest -> Holds 0 items tokens -> rest.length ≤ fuel ->
        (forall text, lexLoop fuel index rest = .error text ->
          lexLoopAt fresh input (fuel + 1) index tokens = some (.error text)) ∧
        forall more, lexLoop fuel index rest = .ok more ->
          exists block, lexLoopAt fresh input (fuel + 1) index tokens = some (.ok block) ∧
            Holds 0 (items ++ more) block := by
  induction fuel with
  | zero =>
      intro rest index items tokens hcursor hholds hfuel
      have hnil := List.eq_nil_of_length_eq_zero (Nat.le_zero.mp hfuel)
      subst hnil
      constructor
      · intro text htext
        cases htext
      · intro more hmore
        cases hmore
        exact lexLoopAt_end hcursor hholds
  | succ fuel ih =>
      intro rest index items tokens hcursor hholds hfuel
      cases rest with
      | nil =>
          constructor
          · intro text htext
            cases htext
          · intro more hmore
            cases hmore
            exact lexLoopAt_end hcursor hholds
      | cons current rest =>
          have hlength := hcursor.length_eq
          rw [List.length_cons] at hlength hfuel
          rw [lexLoopAt, hcursor.read, Option.bind_some, if_neg (hcursor.ne_nul hinput)]
          cases hround : lexRound index current rest with
          | error text =>
              rw [lexLoop, hround, lexRoundAt_error hinput hcursor hround]
              constructor
              · intro found hfound
                cases hfound
                rfl
              · intro more hmore
                cases hmore
          | ok lexed =>
              rcases lexed with ⟨token, left⟩
              rcases @lexRoundAt_ok fresh input hinput _ _ _ _ _ hcursor hround with
                ⟨next, hat⟩
              rcases @pushRound_holds fresh _ _ hholds token with ⟨pushed, hpush, hmore⟩
              have hnext := hat.cursor.length_eq
              have hmoved := hat.moved
              have hindex : index + (rest.length + 1 - left.length) = next := by omega
              have hrest := ih hat.cursor hmore (by omega)
              rw [lexLoop, hround, hat.result, Option.bind_some]
              simp only [hpush, Option.bind_some, hindex]
              cases hloop : lexLoop fuel next left with
              | error text =>
                  constructor
                  · intro found hfound
                    cases hfound
                    exact hrest.1 text hloop
                  · intro more hmore
                    cases hmore
              | ok others =>
                  constructor
                  · intro text htext
                    cases htext
                  · intro more hmore
                    cases hmore
                    rcases hrest.2 others hloop with ⟨block, hblock, hall⟩
                    exact ⟨block, hblock, by rwa [← List.append_assoc]⟩

/--
`lex_sql` on a C string comes to its end, stays within the string and its blocks,
and returns what the functional lexer does.
-/
theorem lexSqlAt_eq (hinput : NulFree input) :
    lexSqlAt fresh input = some (lexSql input) := by
  have hloop := @lexLoopAt_eq fresh input hinput input.length input 0 [] Growing.null
    (Cursor.start input) Holds.null (Nat.le_refl _)
  unfold lexSqlAt lexSql
  rw [cString_eq_self hinput]
  cases hlex : lexLoop input.length 0 input with
  | error text =>
      rw [hloop.1 text hlex]
      rfl
  | ok tokens =>
      rcases hloop.2 tokens hlex with ⟨block, hblock, hholds⟩
      have htake : block.cells.take block.count = tokens := by
        rw [hholds.count, List.prefix_iff_eq_take.mp hholds.starts |>.symm]
        rfl
      rw [hblock, Option.map_some, Except.map, htake]

end Whole

end Sql
end SqlCsvServer
