import Mathlib.Data.List.Infix

/-!
# Parts of a list

Where a list is put together from pieces, a part of it lies in one piece, if the
pieces are kept apart by something that the part does not contain.
-/

namespace SqlCsvServer
namespace Foundation

variable {α : Type} {part left right : List α}

theorem within_append_cons {separator : α} (h : separator ∉ part) :
    part <:+: left ++ separator :: right <-> part <:+: left ∨ part <:+: right := by
  have hfront : forall front : List α, front <+: separator :: right ->
      separator ∉ front -> front = [] := by
    intro front hfront hnot
    cases front with
    | nil => rfl
    | cons first front =>
        rcases List.cons_prefix_cons.mp hfront with ⟨rfl, _⟩
        exact absurd List.mem_cons_self hnot
  constructor
  · intro hpart
    rcases List.infix_append_iff.mp hpart with hleft | hright | ⟨front, back, hsplit⟩
    · exact .inl hleft
    · rcases List.infix_cons_iff.mp hright with hprefix | hright
      · rw [hfront part hprefix h]
        exact .inl List.nil_infix
      · exact .inr hright
    · rcases hsplit with ⟨rfl, hsuffix, hprefix⟩
      have hback := hfront back hprefix fun hmem => h (List.mem_append_right _ hmem)
      rw [hback, List.append_nil]
      exact .inl hsuffix.isInfix
  · rintro (hleft | hright)
    · exact List.infix_append_of_infix_left hleft
    · exact List.infix_append_of_infix_right (List.infix_cons hright)

theorem within_append_disjoint (hne : part ≠ [])
    (h : forall x, x ∈ right -> x ∉ part) :
    part <:+: left ++ right <-> part <:+: left := by
  constructor
  · intro hpart
    rcases List.infix_append_iff.mp hpart with hleft | hright | ⟨front, back, hsplit⟩
    · exact hleft
    · rcases List.exists_mem_of_ne_nil part hne with ⟨x, hx⟩
      exact absurd hx (h x (hright.subset hx))
    · rcases hsplit with ⟨rfl, hsuffix, hprefix⟩
      cases back with
      | nil =>
          rw [List.append_nil]
          exact hsuffix.isInfix
      | cons x back =>
          have hmem : x ∈ right := hprefix.subset List.mem_cons_self
          exact absurd (List.mem_append_right _ List.mem_cons_self) (h x hmem)
  · exact List.infix_append_of_infix_left

end Foundation
end SqlCsvServer
