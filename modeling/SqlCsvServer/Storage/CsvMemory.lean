import SqlCsvServer.Foundation.GrowingBlock
import SqlCsvServer.Storage.Csv

/-!
# Reading a CSV line in memory

`csv_parse_line` once more, with the cursor in the C string, the buffer of
`append_character` and the array of `string_list_push`.
-/

namespace SqlCsvServer
namespace Storage

open Foundation Common

/-!
## The function on memory
-/

/-- What `malloc` and `realloc` leave in new cells. -/
structure FreshFields where
  byte : Nat -> Byte
  field : Nat -> Bytes

/-- The buffer of `append_character` grows where `length + 1 >= capacity`. -/
def characterGrowth : Growth := Growth.whenOneLeft 16

/-- The array of `string_list_push` grows where `count == capacity`. -/
def listGrowth : Growth := Growth.whenFull 4

section Memory

variable (fresh : FreshFields) (line : Bytes)

/-- `append_character`: the byte, and a terminator behind it. -/
def appendCharacterAt (buffer : Growing Byte) (b : Byte) : Option (Growing Byte) :=
  (buffer.put characterGrowth fresh.byte b).bind Growing.terminate

def stringListPush (list : Growing Bytes) (value : Bytes) : Option (Growing Bytes) :=
  list.put listGrowth fresh.field value

def fieldTextAt (justClosedQuote : Bool) (buffer : Growing Byte) : Option Bytes :=
  (blockString (if buffer.cells = [] then [Byte.nul] else buffer.cells)).map fun text =>
    if justClosedQuote then text else trimWhitespace text

def finishField (justClosedQuote : Bool) (buffer : Growing Byte) (fields : Growing Bytes) :
    Option (Growing Bytes) :=
  (fieldTextAt justClosedQuote buffer).bind fun text => stringListPush fresh fields text

/-- The loop of `csv_parse_line`. -/
def csvParseLoopAt : Nat -> Bool -> Bool -> Growing Byte -> Growing Bytes -> Nat ->
    Option (Except Bytes (Growing Bytes))
  | 0, _, _, _, _, _ => none
  | fuel + 1, inQuotes, justClosedQuote, buffer, fields, index =>
      (byteAt line index).bind fun current =>
        if inQuotes then
          if current = Byte.doubleQuote then
            (byteAt line (index + 1)).bind fun next =>
              if next = Byte.doubleQuote then
                (appendCharacterAt fresh buffer Byte.doubleQuote).bind fun buffer =>
                  csvParseLoopAt fuel true justClosedQuote buffer fields (index + 2)
              else csvParseLoopAt fuel false true buffer fields (index + 1)
          else if current = Byte.nul then
            some (.error (ascii "unterminated quoted CSV field"))
          else
            (appendCharacterAt fresh buffer current).bind fun buffer =>
              csvParseLoopAt fuel true justClosedQuote buffer fields (index + 1)
        else if current = Byte.nul then
          (finishField fresh justClosedQuote buffer fields).map .ok
        else if current = Byte.comma then
          (finishField fresh justClosedQuote buffer fields).bind fun fields =>
            csvParseLoopAt fuel false false Growing.null fields (index + 1)
        else if current = Byte.doubleQuote ∧ buffer.cells = [] then
          csvParseLoopAt fuel true justClosedQuote buffer fields (index + 1)
        else if justClosedQuote ∧ current ≠ Byte.space ∧ current ≠ Byte.tab then
          some (.error (ascii "unexpected character after quoted CSV field"))
        else if current ≠ Byte.carriageReturn ∧ current ≠ Byte.lineFeed then
          (appendCharacterAt fresh buffer current).bind fun buffer =>
            csvParseLoopAt fuel false justClosedQuote buffer fields (index + 1)
        else csvParseLoopAt fuel false justClosedQuote buffer fields (index + 1)

/-- `csv_parse_line` on a C string. -/
def csvParseLineAt : Option (Except Bytes (List Bytes)) :=
  (csvParseLoopAt fresh line (line.length + 1) false false Growing.null Growing.null
    0).map fun parsed => parsed.map fun fields => fields.cells.take fields.count

end Memory

/-!
## The buffer
-/

theorem characterGrowth_leaves : characterGrowth.Leaves 1 :=
  Growth.whenOneLeft_leaves (by decide)

theorem listGrowth_leaves : listGrowth.Leaves 0 :=
  Growth.whenFull_leaves (by decide)

/-- A buffer of `append_character` with what has been appended to it. -/
structure Collects (text : Option Bytes) (buffer : Growing Byte) : Prop where
  holds : Holds 1 (text.getD []) buffer
  nulFree : NulFree (text.getD [])
  null : buffer.cells = [] <-> text = none
  terminated : text ≠ none -> text.getD [] ++ [Byte.nul] <+: buffer.cells

section Buffer

variable {text : Option Bytes} {buffer : Growing Byte}

theorem Collects.none : Collects none Growing.null where
  holds := Holds.null
  nulFree := List.not_mem_nil
  null := ⟨fun _ => rfl, fun _ => rfl⟩
  terminated := fun h => absurd rfl h

theorem Collects.append (h : Collects text buffer) (fresh : FreshFields) {b : Byte}
    (hb : b ≠ Byte.nul) :
    exists next, appendCharacterAt fresh buffer b = some next ∧
      Collects (appendCharacter text b) next := by
  rcases h.holds.put characterGrowth_leaves fresh.byte b with ⟨put, hput, hmore, hcells⟩
  rcases hmore.terminate hcells with ⟨next, hnext, hholds, hprefix⟩
  refine ⟨next, ?_, hholds, nulFree_push h.nulFree hb, ?_, fun _ => hprefix⟩
  · rw [appendCharacterAt, hput, Option.bind_some, hnext]
  · constructor
    · intro hnull
      rw [hnull, List.prefix_nil] at hprefix
      exact absurd hprefix (List.append_ne_nil_of_right_ne_nil _ (List.cons_ne_nil _ _))
    · exact fun hnone => absurd hnone (Option.some_ne_none _)

theorem Collects.read (h : Collects text buffer) (justClosedQuote : Bool) :
    fieldTextAt justClosedQuote buffer = some (fieldText justClosedQuote text) := by
  have hblock : blockString (if buffer.cells = [] then [Byte.nul] else buffer.cells) =
      some (text.getD []) := by
    by_cases hnull : buffer.cells = []
    · rw [if_pos hnull, h.null.mp hnull]
      rfl
    · rw [if_neg hnull]
      exact blockString_of_prefix h.nulFree
        (h.terminated fun hnone => hnull (h.null.mpr hnone))
  rw [fieldTextAt, hblock]
  rfl

theorem Collects.finish (h : Collects text buffer) (fresh : FreshFields)
    (justClosedQuote : Bool) {items : List Bytes} {fields : Growing Bytes}
    (hfields : Holds 0 items fields) :
    exists next, finishField fresh justClosedQuote buffer fields = some next ∧
      Holds 0 (items ++ [fieldText justClosedQuote text]) next := by
  rcases hfields.put listGrowth_leaves fresh.field (fieldText justClosedQuote text) with
    ⟨next, hput, hmore, _⟩
  refine ⟨next, ?_, hmore⟩
  rw [finishField, h.read, Option.bind_some, stringListPush, hput]

end Buffer

/-!
## The loop
-/

inductive ParsedAt : Option (Except Bytes (Growing Bytes)) -> Except Bytes (List Bytes) ->
    Prop where
  | error (text : Bytes) : ParsedAt (some (.error text)) (.error text)
  | ok {items : List Bytes} {fields : Growing Bytes} (hfields : Holds 0 items fields) :
      ParsedAt (some (.ok fields)) (.ok items)

theorem csvParseLoopAt_parsed {fresh : FreshFields} {line : Bytes} (hline : NulFree line)
    {fuel : Nat} :
    forall {rest : Bytes} {index : Nat} {text : Option Bytes} {buffer : Growing Byte}
        {items : List Bytes} {fields : Growing Bytes} (inQuotes justClosedQuote : Bool),
      Cursor line index rest -> Collects text buffer -> Holds 0 items fields ->
        rest.length < fuel ->
          ParsedAt
            (csvParseLoopAt fresh line fuel inQuotes justClosedQuote buffer fields index)
            (csvParseLoop inQuotes justClosedQuote text items rest) := by
  induction fuel with
  | zero => exact fun _ _ _ _ _ hfuel => absurd hfuel (Nat.not_lt_zero _)
  | succ fuel ih =>
      intro rest index text buffer items fields inQuotes justClosedQuote hcursor hcollects
        hfields hfuel
      unfold csvParseLoopAt
      rw [csvParseLoop.eq_def]
      cases rest with
      | nil =>
          have hnul : Byte.nul ≠ Byte.doubleQuote := by decide
          rw [hcursor.read_end, Option.bind_some]
          cases inQuotes with
          | true =>
              simp only [if_true, if_neg hnul]
              exact .error _
          | false =>
              rcases hcollects.finish fresh justClosedQuote hfields with
                ⟨next, hfinish, hmore⟩
              simp only [Bool.false_eq_true, if_false, if_true, hfinish, Option.map_some]
              exact .ok hmore
      | cons current rest =>
          have hcurrent := hcursor.ne_nul hline
          have hnext := hcursor.next
          have hless := Nat.lt_of_succ_lt_succ hfuel
          rw [hcursor.read, Option.bind_some]
          cases inQuotes with
          | true =>
              simp only [if_true]
              by_cases hquote : current = Byte.doubleQuote
              · subst hquote
                simp only [if_true]
                cases rest with
                | nil =>
                    have hnul : Byte.nul ≠ Byte.doubleQuote := by decide
                    rw [hnext.read_end, Option.bind_some, if_neg hnul]
                    exact ih false true hnext hcollects hfields hless
                | cons next rest =>
                    rw [hnext.read, Option.bind_some]
                    by_cases hpair : next = Byte.doubleQuote
                    · subst hpair
                      rcases hcollects.append fresh hcurrent with ⟨more, happend, hmore⟩
                      simp only [if_true, happend, Option.bind_some]
                      exact ih true justClosedQuote hnext.next hmore hfields
                        (Nat.lt_of_succ_lt hless)
                    · simp only [if_neg hpair]
                      exact ih false true hnext hcollects hfields hless
              · rcases hcollects.append fresh hcurrent with ⟨more, happend, hmore⟩
                rw [if_neg hquote, if_neg hquote, if_neg hcurrent, happend, Option.bind_some]
                exact ih true justClosedQuote hnext hmore hfields hless
          | false =>
              simp only [Bool.false_eq_true, if_false, if_neg hcurrent]
              by_cases hcomma : current = Byte.comma
              · rcases hcollects.finish fresh justClosedQuote hfields with ⟨more, hfinish, hmore⟩
                rw [if_pos hcomma, if_pos hcomma, hfinish, Option.bind_some]
                exact ih false false hnext Collects.none hmore hless
              · rw [if_neg hcomma, if_neg hcomma]
                simp only [hcollects.null]
                split
                · exact ih true justClosedQuote hnext hcollects hfields hless
                · split
                  · exact .error _
                  · split
                    · rcases hcollects.append fresh hcurrent with ⟨more, happend, hmore⟩
                      rw [happend, Option.bind_some]
                      exact ih false justClosedQuote hnext hmore hfields hless
                    · exact ih false justClosedQuote hnext hcollects hfields hless

/--
`csv_parse_line` on a C string comes to its end, stays within the string and its
blocks, and returns what the functional reader does.
-/
theorem csvParseLineAt_eq {fresh : FreshFields} {line : Bytes} (hline : NulFree line) :
    csvParseLineAt fresh line = some (csvParseLine line) := by
  have hparsed := @csvParseLoopAt_parsed fresh line hline (line.length + 1) line 0 none
    Growing.null [] Growing.null false false (Cursor.start line) Collects.none Holds.null
    (Nat.lt_succ_self _)
  unfold csvParseLineAt csvParseLine
  generalize csvParseLoopAt fresh line _ _ _ _ _ _ = result at hparsed ⊢
  generalize csvParseLoop _ _ _ _ _ = outcome at hparsed ⊢
  cases hparsed with
  | error text => rfl
  | @ok items fields hfields =>
      have htake : fields.cells.take fields.count = items := by
        rw [hfields.count, ← List.prefix_iff_eq_take.mp hfields.starts]
      rw [Option.map_some, Except.map, htake]

end Storage
end SqlCsvServer
