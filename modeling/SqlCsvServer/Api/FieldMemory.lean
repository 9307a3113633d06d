import SqlCsvServer.Foundation.GrowingBlock
import SqlCsvServer.Sql.LexerMemory
import SqlCsvServer.Sql.ParserMemory
import SqlCsvServer.Storage.CsvMemory
import SqlCsvServer.Api.FlatObject

/-!
# The `sql` field in memory

`extract_sql_field` and its helpers once more, with the cursor in the C string of
the body and the buffer of `parse_json_string`.
-/

namespace SqlCsvServer
namespace Api

open Foundation

/-!
## The functions on memory
-/

/-- The buffer of `parse_json_string` grows where `length + 2 > capacity`. -/
def jsonGrowth : Growth :=
  { full := fun length capacity => decide (capacity < length + 2), first := 64 }

section Memory

variable (fresh : Nat -> Byte) (body : Bytes)

/-- `skip_ws`. -/
def skipWsAt (index : Nat) : Option Nat :=
  scanWhile isJsonBlank body (body.length + 1) index

/--
The loop of `parse_json_string`: where it stops, and the buffer; or the return
value 0 behind a backslash.
-/
def jsonStringLoopAt : Nat -> Nat -> Growing Byte -> Option (Option (Nat × Growing Byte))
  | 0, _, _ => none
  | fuel + 1, index, buffer =>
      (byteAt body index).bind fun b =>
        if b = Byte.nul ∨ b = Byte.doubleQuote then some (some (index, buffer))
        else if b = Byte.backslash then
          (byteAt body (index + 1)).bind fun escaped =>
            match unescapeByte escaped with
            | none => some none
            | some byte =>
                (buffer.put jsonGrowth fresh byte).bind fun buffer =>
                  jsonStringLoopAt fuel (index + 2) buffer
        else
          (buffer.put jsonGrowth fresh b).bind fun buffer =>
            jsonStringLoopAt fuel (index + 1) buffer

def finishedString (buffer : Growing Byte) : Option Bytes :=
  let cells := if buffer.cells = [] then reallocate fresh [] 1 else buffer.cells
  ({ buffer with cells := cells }.terminate).bind fun buffer => blockString buffer.cells

/-- `parse_json_string`: the value, and the index behind it. -/
def parseJsonStringAt (index : Nat) : Option (Option (Bytes × Nat)) :=
  (byteAt body index).bind fun b =>
    if b ≠ Byte.doubleQuote then some none
    else
      (jsonStringLoopAt fresh body (body.length + 1) (index + 1) Growing.null).bind fun
        | none => some none
        | some stopped =>
            (byteAt body stopped.1).bind fun last =>
              if last ≠ Byte.doubleQuote then some none
              else
                (finishedString fresh stopped.2).map fun value =>
                  some (value, stopped.1 + 1)

def startsWithAt : Bytes -> Nat -> Option Bool
  | [], _ => some true
  | expected :: word, index =>
      (byteAt body index).bind fun b =>
        if b = expected then startsWithAt word (index + 1) else some false

/-- `skip_json_value`: the index behind the value. -/
def skipJsonValueAt (start : Nat) : Option (Option Nat) :=
  (skipWsAt body start).bind fun input =>
    (byteAt body input).bind fun b =>
      if b = Byte.doubleQuote then
        (parseJsonStringAt fresh body input).map fun parsed => parsed.map Prod.snd
      else
        (startsWithAt body (ascii "null") input).bind fun isNull =>
          if isNull then some (some (input + 4))
          else
            (startsWithAt body (ascii "true") input).bind fun isTrue =>
              if isTrue then some (some (input + 4))
              else
                (startsWithAt body (ascii "false") input).bind fun isFalse =>
                  if isFalse then some (some (input + 5))
                  else
                    (scanWhile isNumberByte body (body.length + 1) input).map fun stop =>
                      if stop ≠ start then some stop else none

/-- The value of a member: what it makes of `sql_out`, and the index behind it. -/
def memberValueAt (key : Bytes) (found : Option Bytes) (index : Nat) :
    Option (Option (Option Bytes × Nat)) :=
  if key = ascii "sql" then
    (parseJsonStringAt fresh body index).map fun parsed =>
      parsed.map fun parsed => (some parsed.1, parsed.2)
  else
    (skipJsonValueAt fresh body index).map fun skipped =>
      skipped.map fun index => (found, index)

def memberAt (found : Option Bytes) (index : Nat) :
    Option (Option (Option Bytes × Nat)) :=
  (parseJsonStringAt fresh body index).bind fun
    | none => some none
    | some key =>
        (skipWsAt body key.2).bind fun index =>
          (byteAt body index).bind fun colon =>
            if colon ≠ 0x3A then some none
            else
              (skipWsAt body (index + 1)).bind fun index =>
                memberValueAt fresh body key.1 found index

/-- The end of `extract_sql_field`, behind the closing brace. -/
def closeObjectAt (found : Option Bytes) (index : Nat) : Option SqlField :=
  (skipWsAt body index).bind fun index =>
    (byteAt body index).map fun b =>
      if b ≠ Byte.nul then .invalid
      else
        match found with
        | none => .missing
        | some sql => .found sql

def behindValueAt (nextRound : Nat -> Option SqlField) (found : Option Bytes)
    (index : Nat) : Option SqlField :=
  (skipWsAt body index).bind fun index =>
    (byteAt body index).bind fun b =>
      if b = Byte.comma then nextRound (index + 1)
      else if b = 0x7D then closeObjectAt body found (index + 1)
      else some .invalid

/-- The loop of `extract_sql_field`. -/
def extractMembersAt : Nat -> Option Bytes -> Nat -> Option SqlField
  | 0, _, _ => none
  | fuel + 1, found, index =>
      (skipWsAt body index).bind fun index =>
        (byteAt body index).bind fun b =>
          if b = 0x7D then closeObjectAt body found (index + 1)
          else
            (memberAt fresh body found index).bind fun
              | none => some .invalid
              | some member =>
                  behindValueAt body (extractMembersAt fuel member.1) member.1 member.2

/-- `extract_sql_field` on a C string. -/
def extractSqlFieldAt : Option SqlField :=
  (skipWsAt body 0).bind fun index =>
    (byteAt body index).bind fun b =>
      if b ≠ 0x7B then some .invalid
      else extractMembersAt fresh body (body.length + 1) none (index + 1)

end Memory

/-!
## Strings
-/

theorem jsonGrowth_leaves : jsonGrowth.Leaves 1 where
  first_room := by decide
  full_null := by decide
  not_full := by
    intro length capacity hfull _
    have hroom := of_decide_eq_false hfull
    omega

inductive Tracks {α : Type} (body : Bytes) (index : Nat) :
    Option (Option (α × Nat)) -> Option (α × Bytes) -> Prop where
  | none : Tracks body index (some none) none
  | some (value : α) {next : Nat} {left : Bytes} (hmoved : index ≤ next)
      (hcursor : Cursor body next left) :
      Tracks body index (some (some (value, next))) (some (value, left))

inductive Moves (body : Bytes) (index : Nat) : Option (Option Nat) -> Option Bytes -> Prop
    where
  | none : Moves body index (some none) none
  | some {next : Nat} {left : Bytes} (hmoved : index ≤ next)
      (hcursor : Cursor body next left) :
      Moves body index (some (some next)) (some left)

theorem skipWsAt_cursor {body rest : Bytes} {index : Nat} (hcursor : Cursor body index rest) :
    exists next, skipWsAt body index = some next ∧ index ≤ next ∧
      Cursor body next (skipWs rest) := by
  have hnul : isJsonBlank Byte.nul = false := by decide
  have hlength := hcursor.length_eq
  exact hcursor.scanWhile hnul (by omega)

theorem unescapeByte_nul : unescapeByte Byte.nul = none := by
  decide

theorem unescapeByte_ne_nul {escaped byte : Byte} (h : unescapeByte escaped = some byte) :
    byte ≠ Byte.nul := by
  have hnever : forall b : Byte, unescapeByte b ≠ some Byte.nul := by
    decide +kernel
  rintro rfl
  exact hnever escaped h

/-- Where the loop of `parse_json_string` stops, beside the rest of the string. -/
inductive Stops (body : Bytes) (index : Nat) (text : Bytes) :
    Option (Option (Nat × Growing Byte)) -> Option (Bytes × Bytes) -> Prop where
  | escape : Stops body index text (some none) none
  | unterminated {stop : Nat} {buffer : Growing Byte} (hcursor : Cursor body stop []) :
      Stops body index text (some (some (stop, buffer))) none
  | quote {stop : Nat} {buffer : Growing Byte} {value left : Bytes} (hmoved : index ≤ stop)
      (hcursor : Cursor body stop (Byte.doubleQuote :: left))
      (hholds : Holds 1 (text ++ value) buffer) (hnul : NulFree (text ++ value)) :
      Stops body index text (some (some (stop, buffer))) (some (value, left))

theorem Stops.push {body text : Bytes} {index later : Nat} {b : Byte}
    {result : Option (Option (Nat × Growing Byte))} {parsed : Option (Bytes × Bytes)}
    (h : Stops body later (text ++ [b]) result parsed) (hlater : index ≤ later) :
    Stops body index text result
      (parsed.map fun parsed => (b :: parsed.1, parsed.2)) := by
  cases h with
  | escape => exact .escape
  | unterminated hcursor => exact .unterminated hcursor
  | quote hmoved hcursor hholds hnul =>
      rw [List.append_assoc, List.singleton_append] at hholds hnul
      exact .quote (Nat.le_trans hlater hmoved) hcursor hholds hnul

theorem finishedString_eq {fresh : Nat -> Byte} {text : Bytes} {buffer : Growing Byte}
    (hholds : Holds 1 text buffer) (htext : NulFree text) :
    finishedString fresh buffer = some text := by
  have hcells : Holds 1 text
      { buffer with
        cells := if buffer.cells = [] then reallocate fresh [] 1 else buffer.cells } := by
    by_cases hnull : buffer.cells = []
    · rw [if_pos hnull]
      have htext := hholds.items_nil hnull
      subst htext
      exact ⟨hholds.count, List.nil_prefix, fun _ => Nat.le_refl 1⟩
    · rw [if_neg hnull]
      exact hholds
  have hsome : (if buffer.cells = [] then reallocate fresh [] 1 else buffer.cells) ≠ [] := by
    by_cases hnull : buffer.cells = []
    · rw [if_pos hnull]
      exact List.cons_ne_nil _ _
    · rwa [if_neg hnull]
  rcases hcells.terminate hsome with ⟨next, hnext, _, hprefix⟩
  simp only [finishedString, hnext, Option.bind_some]
  exact blockString_of_prefix htext hprefix

section Strings

variable {fresh : Nat -> Byte} {body : Bytes} (hbody : NulFree body)
include hbody

theorem jsonStringLoopAt_stops {fuel : Nat} :
    forall {rest text : Bytes} {index : Nat} {buffer : Growing Byte},
      Cursor body index rest -> Holds 1 text buffer -> NulFree text -> rest.length < fuel ->
        Stops body index text (jsonStringLoopAt fresh body fuel index buffer)
          (parseJsonStringTail rest) := by
  induction fuel with
  | zero => exact fun _ _ _ hfuel => absurd hfuel (Nat.not_lt_zero _)
  | succ fuel ih =>
      intro rest text index buffer hcursor hholds htext hfuel
      unfold jsonStringLoopAt
      rw [parseJsonStringTail.eq_def]
      cases rest with
      | nil =>
          rw [hcursor.read_end, Option.bind_some, if_pos (.inl rfl)]
          exact .unterminated hcursor
      | cons b rest =>
          have hb := hcursor.ne_nul hbody
          have hless := Nat.lt_of_succ_lt_succ hfuel
          rw [hcursor.read, Option.bind_some]
          simp only [hb, false_or]
          by_cases hquote : b = Byte.doubleQuote
          · subst hquote
            rw [if_pos rfl, if_pos rfl]
            exact .quote (Nat.le_refl _) hcursor (by rwa [List.append_nil])
              (by rwa [List.append_nil])
          · rw [if_neg hquote, if_neg hquote]
            by_cases hescape : b = Byte.backslash
            · rw [if_pos hescape, if_pos hescape]
              cases rest with
              | nil =>
                  rw [hcursor.next.read_end, Option.bind_some, unescapeByte_nul]
                  exact .escape
              | cons escaped rest =>
                  rw [hcursor.next.read, Option.bind_some]
                  cases hbyte : unescapeByte escaped with
                  | none =>
                      simp only [hbyte]
                      exact .escape
                  | some byte =>
                      rcases hholds.put jsonGrowth_leaves fresh byte with
                        ⟨more, hput, hmore, _⟩
                      have hpushed := nulFree_push htext (unescapeByte_ne_nul hbyte)
                      simp only [hbyte, hput, Option.bind_some]
                      exact (ih hcursor.next.next hmore hpushed
                        (Nat.lt_of_succ_lt hless)).push (by omega)
            · rcases hholds.put jsonGrowth_leaves fresh b with ⟨more, hput, hmore, _⟩
              rw [if_neg hescape, if_neg hescape, hput, Option.bind_some]
              exact (ih hcursor.next hmore (nulFree_push htext hb) hless).push
                (Nat.le_succ _)

theorem parseJsonStringAt_tracks {rest : Bytes} {index : Nat}
    (hcursor : Cursor body index rest) :
    Tracks body (index + 1) (parseJsonStringAt fresh body index) (parseJsonString rest) := by
  have hlength := hcursor.length_eq
  unfold parseJsonStringAt parseJsonString
  cases rest with
  | nil =>
      have hnul : Byte.nul ≠ Byte.doubleQuote := by decide
      rw [hcursor.read_end, Option.bind_some, if_pos hnul]
      exact .none
  | cons b rest =>
      rw [hcursor.read, Option.bind_some]
      by_cases hquote : b = Byte.doubleQuote
      · rw [if_neg (not_not_intro hquote)]
        simp only [if_pos hquote]
        rw [List.length_cons] at hlength
        have hstops := @jsonStringLoopAt_stops fresh body hbody (body.length + 1) rest []
          (index + 1) Growing.null hcursor.next Holds.null List.not_mem_nil (by omega)
        generalize jsonStringLoopAt fresh body _ _ _ = result at hstops ⊢
        generalize parseJsonStringTail rest = parsed at hstops ⊢
        cases hstops with
        | escape => exact .none
        | unterminated hend =>
            have hnul : Byte.nul ≠ Byte.doubleQuote := by decide
            simp only [Option.bind_some, hend.read_end, if_pos hnul]
            exact .none
        | quote hmoved hend hholds hnul =>
            rw [List.nil_append] at hholds hnul
            simp only [Option.bind_some, hend.read, ne_eq, not_true_eq_false, if_false,
              finishedString_eq hholds hnul, Option.map_some]
            exact .some _ (Nat.le_succ_of_le hmoved) hend.next
      · simp only [if_pos hquote, if_neg hquote]
        exact .none

end Strings

/-!
## Values
-/

theorem startsWithAt_eq {body word : Bytes} (hword : NulFree word) :
    forall {rest : Bytes} {index : Nat}, Cursor body index rest ->
      startsWithAt body word index = some (word.isPrefixOf rest) := by
  induction word with
  | nil => exact fun _ => rfl
  | cons expected word ih =>
      intro rest index hcursor
      rw [startsWithAt]
      cases rest with
      | nil =>
          have hnul : Byte.nul ≠ expected := by
            rintro rfl
            exact hword List.mem_cons_self
          rw [hcursor.read_end, Option.bind_some, if_neg hnul]
          rfl
      | cons b rest =>
          have hmore : NulFree word := fun hmem => hword (List.mem_cons_of_mem _ hmem)
          rw [hcursor.read, Option.bind_some, List.isPrefixOf_cons_cons]
          by_cases hsame : b = expected
          · subst hsame
            rw [if_pos rfl, ih hmore hcursor.next, beq_self_eq_true, Bool.true_and]
          · have hother : (expected == b) = false := beq_false_of_ne (Ne.symm hsame)
            rw [if_neg hsame, hother, Bool.false_and]

section Values

variable {fresh : Nat -> Byte} {body : Bytes} (hbody : NulFree body)
include hbody

theorem skipJsonValueAt_moves {rest : Bytes} {index : Nat}
    (hcursor : Cursor body index rest) :
    Moves body index (skipJsonValueAt fresh body index) (skipJsonValue rest) := by
  rcases skipWsAt_cursor hcursor with ⟨input, hskip, hmoved, hinput⟩
  rcases hinput.look (by decide : Byte.doubleQuote ≠ Byte.nul) with ⟨b, hread, hhead⟩
  have hnull := startsWithAt_eq (by decide : NulFree (ascii "null")) hinput
  have htrue := startsWithAt_eq (by decide : NulFree (ascii "true")) hinput
  have hfalse := startsWithAt_eq (by decide : NulFree (ascii "false")) hinput
  have hword : forall {word : Bytes}, word.isPrefixOf (skipWs rest) = true ->
      Moves body index (some (some (input + word.length)))
        (some ((skipWs rest).drop word.length)) :=
    fun h => .some (Nat.le_add_right_of_le hmoved) (hinput.word h)
  unfold skipJsonValueAt skipJsonValue
  simp only [hskip, hread, hnull, htrue, hfalse, Option.bind_some, hhead]
  by_cases hquote : (skipWs rest).head? = some Byte.doubleQuote
  · have htracks := @parseJsonStringAt_tracks fresh body hbody _ _ hinput
    rw [if_pos hquote, if_pos hquote]
    generalize parseJsonStringAt fresh body input = result at htracks ⊢
    generalize parseJsonString (skipWs rest) = parsed at htracks ⊢
    cases htracks with
    | none => exact .none
    | some value hlater hnext => exact .some (by omega) hnext
  · rw [if_neg hquote, if_neg hquote]
    split
    · exact hword (by assumption)
    · split
      · exact hword (by assumption)
      · split
        · exact hword (by assumption)
        · have hnul : isNumberByte Byte.nul = false := by decide
          have hlength := hinput.length_eq
          rcases hinput.scanWhile hnul (by omega : _ < body.length + 1) with
            ⟨stop, hscan, hlater, hstop⟩
          have hstart := hcursor.length_eq
          have hend := hstop.length_eq
          have hsame : (stop ≠ index) =
              (((skipWs rest).dropWhile isNumberByte).length ≠ rest.length) := by
            apply propext
            omega
          rw [hscan, Option.map_some]
          simp only [hsame]
          split
          · exact .some (Nat.le_trans hmoved hlater) hstop
          · exact .none

theorem memberValueAt_tracks {rest key : Bytes} {found : Option Bytes} {index : Nat}
    (hcursor : Cursor body index rest) :
    Tracks body index (memberValueAt fresh body key found index)
      (memberValue key found rest) := by
  unfold memberValueAt memberValue
  split
  · have htracks := @parseJsonStringAt_tracks fresh body hbody _ _ hcursor
    generalize parseJsonStringAt fresh body index = result at htracks ⊢
    generalize parseJsonString rest = parsed at htracks ⊢
    cases htracks with
    | none => exact .none
    | some value hmoved hnext => exact .some _ (Nat.le_of_succ_le hmoved) hnext
  · have hmoves := @skipJsonValueAt_moves fresh body hbody _ _ hcursor
    generalize skipJsonValueAt fresh body index = result at hmoves ⊢
    generalize skipJsonValue rest = skipped at hmoves ⊢
    cases hmoves with
    | none => exact .none
    | some hmoved hnext => exact .some _ hmoved hnext

theorem closeObjectAt_eq {rest : Bytes} {found : Option Bytes} {index : Nat}
    (hcursor : Cursor body index rest) :
    closeObjectAt body found index = some (closeObject rest found) := by
  rcases skipWsAt_cursor hcursor with ⟨next, hskip, _, hnext⟩
  unfold closeObjectAt closeObject
  rw [hskip, Option.bind_some]
  cases hleft : skipWs rest with
  | nil =>
      rw [hleft] at hnext
      rw [hnext.read_end]
      rfl
  | cons b left =>
      rw [hleft] at hnext
      rw [hnext.read, Option.map_some, if_pos (hnext.ne_nul hbody),
        if_pos (List.cons_ne_nil _ _)]

theorem behindValueAt_eq {nextRound : Nat -> Option SqlField} {fuel : Nat} {rest : Bytes}
    {found : Option Bytes} {index : Nat} (hcursor : Cursor body index rest)
    (hnext : forall {left : Bytes} {next : Nat}, Cursor body next left ->
      left.length < rest.length -> nextRound next = some (extractMembers fuel left found)) :
    behindValueAt body nextRound found index = some (behindValue fuel rest found) := by
  have hlength := hcursor.length_eq
  rcases skipWsAt_cursor hcursor with ⟨last, hskip, hmoved, hlast⟩
  have hleft := hlast.length_eq
  unfold behindValueAt behindValue
  rw [hskip, Option.bind_some]
  cases hrest : skipWs rest with
  | nil =>
      have hcomma : Byte.nul ≠ Byte.comma := by decide
      have hclose : Byte.nul ≠ 0x7D := by decide
      rw [hrest] at hlast
      rw [hlast.read_end, Option.bind_some, if_neg hcomma, if_neg hclose]
  | cons b left =>
      rw [hrest] at hlast hleft
      rw [List.length_cons] at hleft
      rw [hlast.read, Option.bind_some]
      simp only []
      split
      · exact hnext hlast.next (by omega)
      · split
        · exact closeObjectAt_eq hbody hlast.next
        · rfl

theorem extractMembersAt_eq {rounds : Nat} :
    forall {fuel : Nat} {rest : Bytes} {found : Option Bytes} {index : Nat},
      Cursor body index rest -> rest.length < rounds -> rest.length < fuel ->
        extractMembersAt fresh body rounds found index =
          some (extractMembers fuel rest found) := by
  induction rounds with
  | zero => exact fun _ hrounds => absurd hrounds (Nat.not_lt_zero _)
  | succ rounds ih =>
      intro fuel rest found index hcursor hrounds hfuel
      cases fuel with
      | zero => exact absurd hfuel (Nat.not_lt_zero _)
      | succ fuel =>
          have hlength := hcursor.length_eq
          rcases skipWsAt_cursor hcursor with ⟨first, hskip, hfirst, hcursor⟩
          have hleft := hcursor.length_eq
          unfold extractMembersAt extractMembers memberAt
          rw [hskip, Option.bind_some]
          cases hrest : skipWs rest with
          | nil =>
              have hnul : Byte.nul ≠ 0x7D := by decide
              have hquote : Byte.nul ≠ Byte.doubleQuote := by decide
              rw [hrest] at hcursor
              rw [hcursor.read_end, Option.bind_some, if_neg hnul, parseJsonStringAt,
                hcursor.read_end, Option.bind_some, if_pos hquote]
              rfl
          | cons b left =>
              rw [hrest] at hcursor
              rw [hcursor.read, Option.bind_some]
              by_cases hclose : b = 0x7D
              · simp only [if_pos hclose]
                exact closeObjectAt_eq hbody hcursor.next
              · have hkey := @parseJsonStringAt_tracks fresh body hbody _ _ hcursor
                simp only [if_neg hclose]
                generalize parseJsonStringAt fresh body first = result at hkey ⊢
                generalize parseJsonString (b :: left) = parsed at hkey ⊢
                cases hkey with
                | none => rfl
                | @some key behind left hmoved hbehind =>
                    rcases skipWsAt_cursor hbehind with ⟨colonAt, hskip, hcolonAt, hcolon⟩
                    simp only [Option.bind_some, hskip]
                    cases hleft : skipWs left with
                    | nil =>
                        have hnul : Byte.nul ≠ 0x3A := by decide
                        rw [hleft] at hcolon
                        rw [hcolon.read_end, Option.bind_some, if_pos hnul]
                        rfl
                    | cons colon left =>
                        rw [hleft] at hcolon
                        rw [hcolon.read, Option.bind_some]
                        by_cases hmark : colon = 0x3A
                        · rcases skipWsAt_cursor hcolon.next with
                            ⟨valueAt, hskip, hvalueAt, hvalue⟩
                          have hmember := @memberValueAt_tracks fresh body hbody _ key found
                            _ hvalue
                          simp only [hmark, ne_eq, not_true_eq_false, if_false, hskip,
                            Option.bind_some]
                          generalize memberValueAt fresh body key found valueAt = result
                            at hmember ⊢
                          generalize memberValue key found (skipWs left) = parsed
                            at hmember ⊢
                          cases hmember with
                          | none => rfl
                          | @some found behind left hmember hbehind =>
                              have hend := hbehind.length_eq
                              exact behindValueAt_eq hbody hbehind fun hnext hless =>
                                ih hnext (by omega) (by omega)
                        · simp only [ne_eq, hmark, not_false_eq_true, if_true]
                          rfl

/--
`extract_sql_field` on a C string comes to its end, stays within the string and its
blocks, and returns what it does on the text alone.
-/
theorem extractSqlFieldAt_eq :
    extractSqlFieldAt fresh body = some (extractSqlField body) := by
  rcases skipWsAt_cursor (Cursor.start body) with ⟨first, hskip, _, hcursor⟩
  have hlength := hcursor.length_eq
  unfold extractSqlFieldAt extractSqlField
  rw [hskip, Option.bind_some, cString_eq_self hbody]
  cases hrest : skipWs body with
  | nil =>
      have hopen : Byte.nul ≠ 0x7B := by decide
      rw [hrest] at hcursor
      rw [hcursor.read_end, Option.bind_some, if_pos hopen]
  | cons b rest =>
      rw [hrest] at hcursor hlength
      rw [List.length_cons] at hlength
      rw [hcursor.read, Option.bind_some]
      simp only []
      split
      · rfl
      · exact extractMembersAt_eq hbody hcursor.next (by omega) (Nat.lt_succ_self _)

end Values

/-!
## The scanners together
-/

/--
On a C string the lexer, the CSV reader and the reader of the body come to their end
within the string and their blocks, whatever new cells hold, and the parser does so
within the tokens of the lexer.
-/
theorem scanners_stay_inside (cells : Sql.FreshCells) (fields : Storage.FreshFields)
    (fresh : Nat -> Byte) {text : Bytes} (htext : NulFree text) :
    Sql.lexSqlAt cells text = some (Sql.lexSql text) ∧
      Storage.csvParseLineAt fields text = some (Storage.csvParseLine text) ∧
        extractSqlFieldAt fresh text = some (extractSqlField text) ∧
          forall tokens, Sql.lexSqlAt cells text = some (.ok tokens) ->
            Sql.parseStatementAt tokens = some (Sql.parseStatement tokens) := by
  have hlex := @Sql.lexSqlAt_eq cells text htext
  refine ⟨hlex, Storage.csvParseLineAt_eq htext, extractSqlFieldAt_eq htext, ?_⟩
  intro tokens htokens
  have hlexed : Sql.lexSql text = .ok tokens := Option.some.inj (hlex.symm.trans htokens)
  exact Sql.parseStatementAt_eq (Sql.lexSql_lexedTokens hlexed).endsOnce

theorem scanners_stay_inside_query :
    exists tokens,
      Sql.lexSqlAt { byte := fun _ => 0xAA, token := Sql.endToken }
          (ascii "SELECT * FROM t") = some (.ok tokens) ∧
        Sql.parseStatementAt tokens = some (Sql.parseStatement tokens) ∧
          tokens.length = 5 := by
  have hinside := scanners_stay_inside { byte := fun _ => 0xAA, token := Sql.endToken }
    { byte := fun _ => 0xAA, field := fun _ => [] } (fun _ => 0xAA)
    (by decide : NulFree (ascii "SELECT * FROM t"))
  refine ⟨_, hinside.1, hinside.2.2.2 _ hinside.1, rfl⟩

end Api
end SqlCsvServer
