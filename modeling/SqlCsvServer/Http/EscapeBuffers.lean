import SqlCsvServer.Foundation.GrowingBlock
import SqlCsvServer.Http.HttpResponse
import SqlCsvServer.Storage.Csv

/-!
# Encoders that measure first

`http_json_escape` and `csv_escape_field` go over a string twice: once to
find the size of the block, and once to write into it.  `http_response_set_error`
has a buffer of fixed size instead.
-/

namespace SqlCsvServer
namespace Http

open Foundation Common Engine Storage

/-!
## `http_json_escape`
-/

/-- A byte for which `http_json_escape` counts two. -/
def jsonEscaped (b : Byte) : Bool :=
  b == Byte.backslash || b == Byte.doubleQuote || b == Byte.lineFeed ||
    b == Byte.carriageReturn || b == Byte.tab

/-- The first loop of `http_json_escape`. -/
def jsonEscapedLength : Bytes -> Nat
  | [] => 0
  | b :: value => (if jsonEscaped b then 2 else 1) + jsonEscapedLength value

/-- The second loop of `http_json_escape`: the block, and the offset. -/
def jsonEscapeLoop (value block : Bytes) (offset : Nat) : Option (Bytes × Nat) :=
  storeEach jsonEscapeByte value block offset

/-- `http_json_escape` on the block that `malloc` returned. -/
def jsonEscapeInto (value block : Bytes) : Option (Bytes × Nat) :=
  (jsonEscapeLoop value block 0).bind fun written =>
    (store written.1 written.2 Byte.nul).map fun block => (block, written.2)

theorem jsonEscapeByte_length (b : Byte) :
    (jsonEscapeByte b).length = if jsonEscaped b then 2 else 1 := by
  revert b
  decide +kernel

theorem jsonEscapedLength_eq (value : Bytes) :
    jsonEscapedLength value = (httpJsonEscape value).length := by
  induction value with
  | nil => rfl
  | cons b value ih =>
      unfold httpJsonEscape at ih ⊢
      rw [jsonEscapedLength, List.flatMap_cons, List.length_append,
        jsonEscapeByte_length, ih]

theorem jsonEscapeInto_fills (value : Bytes) {block : Bytes}
    (hblock : block.length = jsonEscapedLength value + 1) :
    jsonEscapeInto value block =
      some (httpJsonEscape value ++ [Byte.nul], jsonEscapedLength value) := by
  rw [jsonEscapedLength_eq] at hblock ⊢
  rcases @storeEach_behind _ _ jsonEscapeByte value block [] List.nil_prefix
    (by rw [List.length_nil, ← httpJsonEscape]; omega) with ⟨next, hloop, hprefix, hlength⟩
  rw [List.length_nil, Nat.zero_add, ← httpJsonEscape] at hloop
  rw [List.nil_append, ← httpJsonEscape] at hprefix
  unfold jsonEscapeInto jsonEscapeLoop
  rw [hloop, Option.bind_some, store_last hprefix Byte.nul (hlength.trans hblock)]
  rfl

/-!
## `csv_escape_field`
-/

/-- What the first loop of `csv_escape_field` counts. -/
def csvExtraQuotes : Bytes -> Nat
  | [] => 0
  | b :: value => (if b = Byte.doubleQuote then 1 else 0) + csvExtraQuotes value

/-- What `csv_escape_field` passes to `malloc`. -/
def csvQuotedSize (value : Bytes) : Nat :=
  value.length + csvExtraQuotes value + 3

/-- What `csv_escape_field` writes for one byte. -/
def csvQuotedByte (b : Byte) : Bytes :=
  if b = Byte.doubleQuote then [Byte.doubleQuote, b] else [b]

/-- The second loop of `csv_escape_field`. -/
def csvQuoteLoop (value block : Bytes) (writeIndex : Nat) : Option (Bytes × Nat) :=
  storeEach csvQuotedByte value block writeIndex

/-- The quoted branch of `csv_escape_field` on the block of `malloc`. -/
def csvQuoteInto (value block : Bytes) : Option (Bytes × Nat) :=
  (storeAll block 0 [Byte.doubleQuote]).bind fun opened =>
    (csvQuoteLoop value opened.1 opened.2).bind fun written =>
      (storeAll written.1 written.2 [Byte.doubleQuote]).bind fun closed =>
        (store closed.1 closed.2 Byte.nul).map fun block => (block, closed.2 + 1)

/-- `csv_escape_field`; the block is for the quoted branch. -/
def csvEscapeInto (value block : Bytes) : Option Bytes :=
  if value = [] then some [Byte.doubleQuote, Byte.doubleQuote]
  else if value.any forcesQuotes then (csvQuoteInto value block).bind fun written =>
    blockString written.1
  else some value

theorem doubleQuotes_length (value : Bytes) :
    (doubleQuotes value).length = value.length + csvExtraQuotes value := by
  induction value with
  | nil => rfl
  | cons b value ih =>
      rw [doubleQuotes, csvExtraQuotes]
      split
      · rw [List.length_cons, List.length_cons, List.length_cons, ih]
        omega
      · rw [List.length_cons, List.length_cons, ih]
        omega

theorem doubleQuotes_eq_flatMap (value : Bytes) :
    doubleQuotes value = value.flatMap csvQuotedByte := by
  induction value with
  | nil => rfl
  | cons b value ih =>
      rw [doubleQuotes, List.flatMap_cons, csvQuotedByte, ← ih]
      split
      · next hquote =>
          rw [hquote]
          rfl
      · rfl

theorem csvQuoteInto_fills (value : Bytes) {block : Bytes}
    (hblock : block.length = csvQuotedSize value) :
    csvQuoteInto value block =
      some (Byte.doubleQuote :: (doubleQuotes value ++ [Byte.doubleQuote]) ++ [Byte.nul],
        csvQuotedSize value) := by
  unfold csvQuotedSize at hblock ⊢
  rw [← doubleQuotes_length, doubleQuotes_eq_flatMap] at hblock ⊢
  rcases @storeAll_behind _ [Byte.doubleQuote] block [] List.nil_prefix
    (by simp only [List.length_nil, List.length_singleton]; omega) with
    ⟨opened, hopen, hopened, hopenedLength⟩
  rcases @storeEach_behind _ _ csvQuotedByte value opened _ hopened
    (by simp only [List.nil_append, List.length_singleton]; omega) with
    ⟨written, hloop, hwritten, hwrittenLength⟩
  rcases @storeAll_behind _ [Byte.doubleQuote] written _ hwritten
    (by simp only [List.nil_append, List.length_append, List.length_singleton]; omega) with
    ⟨closed, hclose, hclosed, hclosedLength⟩
  have hlast := store_last hclosed Byte.nul
    (by simp only [List.nil_append, List.length_append, List.length_singleton]; omega)
  simp only [List.nil_append, List.length_append, List.length_singleton, List.length_nil]
    at hopen hloop hclose hlast
  unfold csvQuoteInto csvQuoteLoop
  rw [hopen, Option.bind_some, hloop, Option.bind_some, hclose, Option.bind_some, hlast]
  simp only [Option.map_some, Option.some.injEq, Prod.mk.injEq]
  constructor
  · simp only [List.nil_append, List.cons_append, List.append_assoc]
  · omega

theorem quoted_nulFree {value : Bytes} (h : NulFree value) :
    NulFree (Byte.doubleQuote :: (doubleQuotes value ++ [Byte.doubleQuote])) := by
  intro hmem
  rcases List.mem_cons.mp hmem with hquote | hmem
  · exact absurd hquote (by decide)
  · rcases List.mem_append.mp hmem with hmem | hquote
    · exact h (mem_doubleQuotes hmem)
    · exact absurd (List.mem_singleton.mp hquote) (by decide)

theorem csvEscapeInto_eq {value block : Bytes} (hvalue : NulFree value)
    (hblock : block.length = csvQuotedSize value) :
    csvEscapeInto value block = some (csvEscapeField value) := by
  unfold csvEscapeInto csvEscapeField
  split
  · rfl
  · split
    · rw [csvQuoteInto_fills value hblock, Option.bind_some]
      exact blockString_of_prefix (quoted_nulFree hvalue) List.prefix_rfl
    · rfl

/-!
## `http_response_set_error`
-/

/-- Which allocations of `http_response_set_error` succeed. -/
structure ErrorAllocations where
  /-- In `http_json_escape`. -/
  escaped : Bool
  /-- The two copies in `http_response_set_body`. -/
  contentType : Bool
  body : Bool

/-- Every allocation succeeds. -/
def ErrorAllocations.Succeed (allocations : ErrorAllocations) : Prop :=
  allocations.escaped = true ∧ allocations.contentType = true ∧
    allocations.body = true

/-- `http_response_set_error` where memory may run out. -/
def httpResponseSetErrorWith (allocations : ErrorAllocations)
    (code : SqlEngineErrorCode) (message : Bytes) : Option HttpResponse :=
  if allocations.escaped then
    let body := errorBody code (httpJsonEscape message)
    if errorBodySize ≤ body.length then none
    else if allocations.contentType && allocations.body then
      some (httpResponseSetJson (httpStatusFromEngineError code) body)
    else none
  else none

theorem errorBody_fits (code : SqlEngineErrorCode) {message : Bytes}
    (h : message.length ≤ 255) :
    (errorBody code (httpJsonEscape message)).length < errorBodySize := by
  have hset := httpResponseSetError_fits code (Nat.lt_succ_of_le h)
  unfold httpResponseSetError at hset
  by_contra hlong
  rw [if_pos (Nat.le_of_not_lt hlong)] at hset
  cases hset

theorem httpResponseSetErrorWith_eq_none_iff (allocations : ErrorAllocations)
    (code : SqlEngineErrorCode) {message : Bytes} (h : message.length ≤ 255) :
    httpResponseSetErrorWith allocations code message = none <->
      ¬ allocations.Succeed := by
  have hfits := Nat.not_le.mpr (errorBody_fits code h)
  rcases allocations with ⟨escaped, contentType, body⟩
  unfold httpResponseSetErrorWith ErrorAllocations.Succeed
  simp only [hfits, if_false]
  cases escaped <;> cases contentType <;> cases body <;> simp

/--
`http_json_escape` and the quoted branch of `csv_escape_field` fill exactly
the block that they measured, and an error message of at most 255 bytes fits the
buffer of `http_response_set_error`, which then needs nothing but memory.
-/
theorem encoders_fill_what_they_measure :
    (forall value block : Bytes, block.length = jsonEscapedLength value + 1 ->
      jsonEscapeInto value block =
        some (httpJsonEscape value ++ [Byte.nul], jsonEscapedLength value)) ∧
      (forall value block : Bytes, block.length = csvQuotedSize value ->
        csvQuoteInto value block =
          some (Byte.doubleQuote :: (doubleQuotes value ++ [Byte.doubleQuote]) ++
            [Byte.nul], csvQuotedSize value)) ∧
      forall (code : SqlEngineErrorCode) (message : Bytes), message.length ≤ 255 ->
        (errorBody code (httpJsonEscape message)).length < errorBodySize ∧
          forall allocations : ErrorAllocations,
            httpResponseSetErrorWith allocations code message = none <->
              ¬ allocations.Succeed :=
  ⟨fun value _ hblock => jsonEscapeInto_fills value hblock,
    fun value _ hblock => csvQuoteInto_fills value hblock,
    fun code _ hmessage => ⟨errorBody_fits code hmessage,
      fun allocations => httpResponseSetErrorWith_eq_none_iff allocations code hmessage⟩⟩

theorem encoders_fill_what_they_measure_sample :
    jsonEscapeInto (ascii "a\"b") (List.replicate 5 0xFF) =
      some (ascii "a\\\"b" ++ [Byte.nul], 4) :=
  encoders_fill_what_they_measure.1 (ascii "a\"b") (List.replicate 5 0xFF) rfl

end Http
end SqlCsvServer
