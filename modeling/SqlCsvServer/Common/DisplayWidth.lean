import SqlCsvServer.Common.Util

/-!
# Display width piece by piece

`utf8_decode_codepoint` looks ahead for continuation bytes.  Where a text is
followed by a byte that is none, it decodes the text as if nothing followed, malformed
sequences included, so the width of the whole is the sum of the widths.
-/

namespace SqlCsvServer
namespace Common

open Foundation

def isContinuation (b : Byte) : Bool :=
  b &&& 0xC0 == 0x80

def StartsAfresh (text : Bytes) : Prop :=
  forall b, text.head? = some b -> isContinuation b = false

theorem StartsAfresh.head {b : Byte} {text : Bytes} (h : StartsAfresh (b :: text)) :
    b &&& 0xC0 ≠ 0x80 := by
  have hb := h b rfl
  unfold isContinuation at hb
  simpa using hb

section Decode

variable {text : Bytes}

theorem utf8DecodeCodepoint_bytes (hne : text ≠ []) :
    1 ≤ (utf8DecodeCodepoint text).2 ∧ (utf8DecodeCodepoint text).2 ≤ text.length := by
  have hzero : ¬ (0 : Byte) &&& 0xC0 = 0x80 := by decide
  unfold utf8DecodeCodepoint
  rcases text with _ | ⟨b0, _ | ⟨b1, _ | ⟨b2, _ | ⟨b3, rest⟩⟩⟩⟩
  · exact absurd rfl hne
  · simp only [List.getD_cons_zero, List.getD_cons_succ, List.getD_nil, hzero, and_false,
      if_false]
    split <;> simp
  · simp only [List.getD_cons_zero, List.getD_cons_succ, List.getD_nil, hzero, and_false,
      if_false]
    split
    · simp
    · split <;> simp
  · simp only [List.getD_cons_zero, List.getD_cons_succ, List.getD_nil, hzero, and_false,
      if_false]
    split
    · simp
    · split
      · simp
      · split <;> simp
  · simp only [List.getD_cons_zero, List.getD_cons_succ]
    split
    · simp
    · split
      · simp
      · split
        · simp
        · split <;> simp

theorem utf8DecodeCodepoint_append (hne : text ≠ []) {right : Bytes}
    (hright : StartsAfresh right) :
    utf8DecodeCodepoint (text ++ right) = utf8DecodeCodepoint text := by
  cases right with
  | nil => rw [List.append_nil]
  | cons r right =>
      have hr := hright.head
      unfold utf8DecodeCodepoint
      rcases text with _ | ⟨b0, _ | ⟨b1, _ | ⟨b2, _ | ⟨b3, rest⟩⟩⟩⟩
      · exact absurd rfl hne
      · simp [hr]
      · simp [hr]
      · simp [hr]
      · simp

end Decode

/-!
## The width of a text
-/

theorem utf8DisplayWidthLoop_enough {fuel : Nat} :
    forall {text : Bytes}, text.length ≤ fuel ->
      utf8DisplayWidthLoop fuel text = utf8DisplayWidth text := by
  induction fuel using Nat.strong_induction_on with
  | _ fuel ih =>
      intro text hlength
      cases text with
      | nil =>
          cases fuel with
          | zero => rfl
          | succ fuel => rfl
      | cons b text =>
          cases fuel with
          | zero => simp at hlength
          | succ fuel =>
              have hbytes := utf8DecodeCodepoint_bytes (List.cons_ne_nil b text)
              rw [List.length_cons] at hlength hbytes
              unfold utf8DisplayWidth
              rw [List.length_cons]
              simp only [utf8DisplayWidthLoop, Nat.add_left_cancel_iff]
              have hrest : ((b :: text).drop (utf8DecodeCodepoint (b :: text)).2).length ≤
                  text.length := by
                rw [List.length_drop, List.length_cons]
                omega
              rw [ih fuel (Nat.lt_succ_self _) (by omega), ih text.length (by omega) hrest]

theorem utf8DisplayWidth_cons (b : Byte) (text : Bytes) :
    utf8DisplayWidth (b :: text) =
      unicodeDisplayWidth (utf8DecodeCodepoint (b :: text)).1 +
        utf8DisplayWidth ((b :: text).drop (utf8DecodeCodepoint (b :: text)).2) := by
  have hbytes := utf8DecodeCodepoint_bytes (List.cons_ne_nil b text)
  have hrest : ((b :: text).drop (utf8DecodeCodepoint (b :: text)).2).length ≤
      text.length := by
    rw [List.length_drop, List.length_cons]
    omega
  rw [← utf8DisplayWidthLoop_enough hrest]
  rfl

theorem utf8DisplayWidth_append {right : Bytes} (hright : StartsAfresh right) :
    forall left : Bytes,
      utf8DisplayWidth (left ++ right) =
        utf8DisplayWidth left + utf8DisplayWidth right := by
  intro left
  induction hlength : left.length using Nat.strong_induction_on generalizing left with
  | _ length ih =>
      cases left with
      | nil => exact (Nat.zero_add _).symm
      | cons b left =>
          have hbytes := utf8DecodeCodepoint_bytes (List.cons_ne_nil b left)
          have hdecode := utf8DecodeCodepoint_append (List.cons_ne_nil b left) hright
          have hshort : ((b :: left).drop (utf8DecodeCodepoint (b :: left)).2).length <
              length := by
            rw [← hlength, List.length_drop]
            omega
          rw [utf8DisplayWidth_cons b left, List.cons_append, utf8DisplayWidth_cons,
            ← List.cons_append, hdecode, List.drop_append_of_le_length hbytes.2,
            ih _ hshort _ rfl, Nat.add_assoc]

theorem utf8DisplayWidth_ascii {b : Byte} (hb : 0x20 ≤ b ∧ b < 0x7F) (text : Bytes) :
    utf8DisplayWidth (b :: text) = 1 + utf8DisplayWidth text := by
  have hdecode : utf8DecodeCodepoint (b :: text) = (b.toNat, 1) := by
    unfold utf8DecodeCodepoint
    have hlow : b < 0x80 := Nat.lt_trans hb.2 (by decide)
    simp [hlow]
  have hwidth : forall b : Byte, 0x20 ≤ b ∧ b < 0x7F -> unicodeDisplayWidth b.toNat = 1 := by
    decide +kernel
  rw [utf8DisplayWidth_cons, hdecode, hwidth b hb]
  rfl

theorem utf8DisplayWidth_replicate {b : Byte} (hb : 0x20 ≤ b ∧ b < 0x7F) (n : Nat) :
    utf8DisplayWidth (List.replicate n b) = n := by
  induction n with
  | zero => rfl
  | succ n ih => rw [List.replicate_succ, utf8DisplayWidth_ascii hb, ih, Nat.add_comm]

theorem startsAfresh_ascii {b : Byte} (hb : 0x20 ≤ b ∧ b < 0x7F) (text : Bytes) :
    StartsAfresh (b :: text) := by
  have hafresh : forall b : Byte, 0x20 ≤ b ∧ b < 0x7F -> isContinuation b = false := by
    decide +kernel
  intro first hfirst
  rw [← Option.some.inj hfirst]
  exact hafresh b hb

end Common
end SqlCsvServer
