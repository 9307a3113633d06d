import SqlCsvServer.Common.Util

/-!
# What `parse_int_strict` takes for an integer

The texts it is meant for are one sign at most and decimal digits.  `strtol`
also skips blanks in front of them, and nothing in `parse_int_strict` looks
for these.
-/

namespace SqlCsvServer
namespace Common

open Foundation

/-- `parse_int_strict`: its return value, and what it leaves in `*value`. -/
def parseIntStrictInto (text : Bytes) (value : Int) : Bool × Int :=
  match parseIntStrict text with
  | none => (false, value)
  | some parsed => (true, parsed)

/-!
## Strict integers
-/

inductive IntText : Bytes -> Int -> Prop where
  | plain {digits : Bytes} (hne : digits ≠ [])
      (hdigits : forall b, b ∈ digits -> isDigit b = true) :
      IntText digits (digitsValue digits)
  | plus {digits : Bytes} (hne : digits ≠ [])
      (hdigits : forall b, b ∈ digits -> isDigit b = true) :
      IntText (0x2B :: digits) (digitsValue digits)
  | minus {digits : Bytes} (hne : digits ≠ [])
      (hdigits : forall b, b ∈ digits -> isDigit b = true) :
      IntText (0x2D :: digits) (-(digitsValue digits : Int))

/-- Such a text whose value an `int` can hold. -/
structure StrictInt (text : Bytes) (value : Int) : Prop where
  written : IntText text value
  low : intMin ≤ value
  high : value ≤ intMax

/--
`parse_int_strict` stores the value of strict integers, and of nothing else;
where it fails, it leaves `*value` alone.
-/
def ReadsStrictly (text : Bytes) : Prop :=
  forall before after : Int,
    (parseIntStrictInto text before = (true, after) <-> StrictInt text after) ∧
      (parseIntStrictInto text before = (false, after) -> after = before)

/-- Blanks, and a strict integer behind them. -/
def BlankBeforeInt (text : Bytes) : Prop :=
  exists blank rest value,
    blank ≠ [] ∧ (forall b, b ∈ blank -> isSpace b = true) ∧
      text = blank ++ rest ∧ StrictInt rest value

/-!
## `strtol` on such a text
-/

theorem isSpace_of_isDigit {b : Byte} (h : isDigit b = true) : isSpace b = false := by
  revert b
  decide +kernel

theorem ne_sign_of_isDigit {b : Byte} (h : isDigit b = true) : b ≠ 0x2D ∧ b ≠ 0x2B := by
  revert b
  decide +kernel

def strtolDigits (text : Bytes) (negative : Bool) (body : Bytes) : StrtolResult :=
  let digits := body.takeWhile isDigit
  if digits = [] then
    { value := 0, rest := text, noConversion := true, outOfRange := false }
  else
    let magnitude : Int := digitsValue digits
    let value := if negative then -magnitude else magnitude
    let rest := body.dropWhile isDigit
    if value < longMin then
      { value := longMin, rest := rest, noConversion := false, outOfRange := true }
    else if longMax < value then
      { value := longMax, rest := rest, noConversion := false, outOfRange := true }
    else
      { value := value, rest := rest, noConversion := false, outOfRange := false }

section Strtol

variable {text body : Bytes}

theorem strtol_minus (h : text.dropWhile isSpace = 0x2D :: body) :
    strtol text = strtolDigits text true body := by
  unfold strtol
  rw [h]
  rfl

theorem strtol_plus (h : text.dropWhile isSpace = 0x2B :: body) :
    strtol text = strtolDigits text false body := by
  unfold strtol
  rw [h]
  rfl

theorem strtol_plain (h : text.dropWhile isSpace = body)
    (hhead : forall b, body.head? = some b -> b ≠ 0x2D ∧ b ≠ 0x2B) :
    strtol text = strtolDigits text false body := by
  unfold strtol
  rw [h]
  cases body with
  | nil => rfl
  | cons b body =>
      have hsign := hhead b rfl
      simp [strtolDigits, hsign.1, hsign.2]

theorem strtolDigits_digits (negative : Bool) (hne : body ≠ [])
    (hdigits : forall b, b ∈ body -> isDigit b = true)
    (hlow : longMin ≤ if negative then -(digitsValue body : Int) else digitsValue body)
    (hhigh : (if negative then -(digitsValue body : Int) else digitsValue body) ≤ longMax) :
    strtolDigits text negative body =
      { value := if negative then -(digitsValue body : Int) else digitsValue body
        rest := []
        noConversion := false
        outOfRange := false } := by
  have htake : body.takeWhile isDigit = body := List.takeWhile_eq_self_iff.mpr hdigits
  have hdrop : body.dropWhile isDigit = [] := List.dropWhile_eq_nil_iff.mpr hdigits
  unfold strtolDigits
  simp only [htake, hdrop, hne, if_false, Int.not_lt.mpr hlow, Int.not_lt.mpr hhigh]

theorem strtolDigits_read {negative : Bool}
    (hconverted : (strtolDigits text negative body).noConversion = false)
    (hrange : (strtolDigits text negative body).outOfRange = false)
    (hrest : (strtolDigits text negative body).rest = []) :
    body ≠ [] ∧ (forall b, b ∈ body -> isDigit b = true) ∧
      (strtolDigits text negative body).value =
        if negative then -(digitsValue body : Int) else digitsValue body := by
  unfold strtolDigits at hconverted hrange hrest ⊢
  by_cases hnone : body.takeWhile isDigit = []
  · simp [hnone] at hconverted
  · simp only [hnone, if_false] at hrange hrest ⊢
    generalize hvalue : (if negative = true then
        -(digitsValue (body.takeWhile isDigit) : Int)
      else (digitsValue (body.takeWhile isDigit) : Int)) = value at hrange hrest ⊢
    split at hrange
    · cases hrange
    · rename_i hlow
      split at hrange
      · cases hrange
      · rename_i hhigh
        simp only [hlow, hhigh, if_false] at hrest ⊢
        have hdigits := List.dropWhile_eq_nil_iff.mp hrest
        rw [List.takeWhile_eq_self_iff.mpr hdigits] at hnone hvalue
        exact ⟨hnone, hdigits, hvalue.symm⟩

end Strtol

theorem IntText.dropWhile_isSpace {text : Bytes} {value : Int} (h : IntText text value) :
    text.dropWhile isSpace = text := by
  cases h with
  | plus _ _ => rfl
  | minus _ _ => rfl
  | plain hne hdigits =>
      rw [List.dropWhile_eq_self_iff]
      intro _
      rw [isSpace_of_isDigit (hdigits _ (List.getElem_mem _))]
      exact Bool.false_ne_true

theorem strtol_intText {blank text : Bytes} {value : Int}
    (hblank : forall b, b ∈ blank -> isSpace b = true) (h : IntText text value)
    (hlow : longMin ≤ value) (hhigh : value ≤ longMax) :
    strtol (blank ++ text) =
      { value := value, rest := [], noConversion := false, outOfRange := false } := by
  have hunsigned : (blank ++ text).dropWhile isSpace = text := by
    rw [List.dropWhile_append_of_pos hblank, h.dropWhile_isSpace]
  cases h with
  | plain hne hdigits =>
      rw [strtol_plain hunsigned]
      · exact strtolDigits_digits false hne hdigits hlow hhigh
      · intro b hb
        exact ne_sign_of_isDigit (hdigits b (List.mem_of_head? hb))
  | plus hne hdigits =>
      rw [strtol_plus hunsigned]
      exact strtolDigits_digits false hne hdigits hlow hhigh
  | minus hne hdigits =>
      rw [strtol_minus hunsigned]
      exact strtolDigits_digits true hne hdigits hlow hhigh

theorem intText_of_strtol {text : Bytes} (hconverted : (strtol text).noConversion = false)
    (hrange : (strtol text).outOfRange = false) (hrest : (strtol text).rest = []) :
    IntText (text.dropWhile isSpace) (strtol text).value := by
  cases hunsigned : text.dropWhile isSpace with
  | nil =>
      rw [strtol_plain hunsigned (by simp)] at hconverted
      cases hconverted
  | cons b body =>
      by_cases hminus : b = 0x2D
      · subst hminus
        rw [strtol_minus hunsigned] at hconverted hrange hrest ⊢
        rcases strtolDigits_read hconverted hrange hrest with ⟨hne, hdigits, hvalue⟩
        rw [hvalue]
        exact IntText.minus hne hdigits
      · by_cases hplus : b = 0x2B
        · subst hplus
          rw [strtol_plus hunsigned] at hconverted hrange hrest ⊢
          rcases strtolDigits_read hconverted hrange hrest with ⟨hne, hdigits, hvalue⟩
          rw [hvalue]
          exact IntText.plus hne hdigits
        · have hhead : forall first, (b :: body).head? = some first ->
              first ≠ 0x2D ∧ first ≠ 0x2B := by
            intro first hfirst
            rw [← Option.some.inj hfirst]
            exact ⟨hminus, hplus⟩
          rw [strtol_plain hunsigned hhead] at hconverted hrange hrest ⊢
          rcases strtolDigits_read hconverted hrange hrest with ⟨hne, hdigits, hvalue⟩
          rw [hvalue]
          exact IntText.plain hne hdigits

/-!
## `parse_int_strict`
-/

theorem longMin_le_of_intMin_le {value : Int} (h : intMin ≤ value) : longMin ≤ value :=
  Int.le_trans (by decide) h

theorem le_longMax_of_le_intMax {value : Int} (h : value ≤ intMax) : value ≤ longMax :=
  Int.le_trans h (by decide)

theorem parseIntStrict_eq_some_iff {text : Bytes} {value : Int} :
    parseIntStrict text = some value <-> StrictInt (text.dropWhile isSpace) value := by
  constructor
  · intro h
    unfold parseIntStrict at h
    split at h
    · cases h
    · simp only at h
      split at h
      · cases h
      · rename_i hread
        split at h
        · cases h
        · rename_i hrange
          simp only [Bool.or_eq_true, not_or, bne_iff_ne, ne_eq, not_not,
            Bool.not_eq_true] at hread
          rw [← Option.some.inj h]
          rw [not_or, Int.not_lt, Int.not_lt] at hrange
          exact ⟨intText_of_strtol hread.1.2 hread.1.1 hread.2, hrange.1, hrange.2⟩
  · intro h
    have hstrtol := strtol_intText
      (fun b hb => List.mem_takeWhile_imp hb : forall b, b ∈ text.takeWhile isSpace ->
        isSpace b = true)
      h.written (longMin_le_of_intMin_le h.low) (le_longMax_of_le_intMax h.high)
    rw [List.takeWhile_append_dropWhile] at hstrtol
    have hne : text ≠ [] := by
      rintro rfl
      cases h.written with
      | plain hne _ => exact hne rfl
    unfold parseIntStrict
    simp [hne, hstrtol, Int.not_lt.mpr h.low, Int.not_lt.mpr h.high]

theorem StrictInt.parsed {text : Bytes} {value : Int} (h : StrictInt text value) :
    parseIntStrict text = some value := by
  rw [parseIntStrict_eq_some_iff, h.written.dropWhile_isSpace]
  exact h

theorem parseIntStrictInto_eq_true_iff {text : Bytes} {before after : Int} :
    parseIntStrictInto text before = (true, after) <->
      parseIntStrict text = some after := by
  unfold parseIntStrictInto
  cases parseIntStrict text with
  | none => simp
  | some parsed => simp

theorem BlankBeforeInt.not_readsStrictly {text : Bytes} (h : BlankBeforeInt text) :
    ¬ ReadsStrictly text := by
  rcases h with ⟨blank, rest, value, hne, hblank, rfl, hrest⟩
  intro hreads
  have hdrop : (blank ++ rest).dropWhile isSpace = rest := by
    rw [List.dropWhile_append_of_pos hblank, hrest.written.dropWhile_isSpace]
  have hparsed : parseIntStrict (blank ++ rest) = some value := by
    rw [parseIntStrict_eq_some_iff, hdrop]
    exact hrest
  -- what is read strictly starts with no blank
  have hstrict := (hreads 0 value).1.mp (parseIntStrictInto_eq_true_iff.mpr hparsed)
  have hself := hstrict.written.dropWhile_isSpace
  rw [hdrop] at hself
  exact hne (List.append_left_eq_self.mp hself.symm)

/--
`parse_int_strict` reads a text strictly unless the text is a strict integer
behind blanks.
-/
theorem reads_strictly_iff (text : Bytes) :
    ReadsStrictly text <-> ¬ BlankBeforeInt text := by
  constructor
  · exact fun hreads hblank => hblank.not_readsStrictly hreads
  · intro hblank before after
    constructor
    · rw [parseIntStrictInto_eq_true_iff]
      constructor
      · intro hparsed
        rw [parseIntStrict_eq_some_iff] at hparsed
        have hnone : text.takeWhile isSpace = [] := by
          by_contra hsome
          exact hblank ⟨_, _, after, hsome, fun b hb => List.mem_takeWhile_imp hb,
            List.takeWhile_append_dropWhile.symm, hparsed⟩
        have hself := @List.takeWhile_append_dropWhile _ isSpace text
        rw [hnone, List.nil_append] at hself
        rwa [hself] at hparsed
      · exact StrictInt.parsed
    · intro hfailed
      unfold parseIntStrictInto at hfailed
      cases hparsed : parseIntStrict text with
      | none =>
          rw [hparsed] at hfailed
          exact (congrArg Prod.snd hfailed).symm
      | some parsed =>
          rw [hparsed] at hfailed
          cases congrArg Prod.fst hfailed

/-- A blank in front of a digit is skipped, and the text is read. -/
theorem blank_read_as_integer : ¬ ReadsStrictly (ascii " 5") := by
  have hblank : forall b, b ∈ [Byte.space] -> isSpace b = true :=
    List.forall_mem_singleton.mpr rfl
  have hdigits : forall b, b ∈ ascii "5" -> isDigit b = true :=
    List.forall_mem_singleton.mpr rfl
  apply BlankBeforeInt.not_readsStrictly
  exact ⟨[Byte.space], ascii "5", 5, List.cons_ne_nil _ _, hblank, rfl,
    ⟨@IntText.plain (ascii "5") (List.cons_ne_nil _ _) hdigits, by decide, by decide⟩⟩

end Common
end SqlCsvServer
