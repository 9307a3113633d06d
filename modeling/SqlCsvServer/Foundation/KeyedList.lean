import Mathlib.Order.Basic
import Mathlib.Order.Lattice
import Mathlib.Data.List.TakeWhile
import Mathlib.Data.List.InsertIdx

/-!
# Sorted keyed lists

Lists of key/value pairs in strictly increasing key order, as the reference
meaning of a search structure: sorted insertion, lookup, and how both act on a
list that is cut at a key.
-/

namespace SqlCsvServer
namespace Foundation

namespace KeyedList

variable {key value : Type}

def Bound (m : List (key × value)) (k : key) : Prop :=
  exists e, e ∈ m ∧ e.1 = k

theorem bound_append {m n : List (key × value)} {k : key} :
    Bound (m ++ n) k <-> Bound m k ∨ Bound n k := by
  simp only [Bound, List.mem_append]
  constructor
  · rintro ⟨e, he | he, hk⟩
    · exact Or.inl ⟨e, he, hk⟩
    · exact Or.inr ⟨e, he, hk⟩
  · rintro (⟨e, he, hk⟩ | ⟨e, he, hk⟩)
    · exact ⟨e, Or.inl he, hk⟩
    · exact ⟨e, Or.inr he, hk⟩

variable [LinearOrder key]

def Sorted (m : List (key × value)) : Prop :=
  m.Pairwise (fun a b => a.1 < b.1)

def insertKey (k : key) (v : value) (m : List (key × value)) :
    List (key × value) :=
  m.takeWhile (fun e => decide (e.1 < k)) ++
    (k, v) :: m.dropWhile (fun e => decide (e.1 < k))

/-!
## Cutting a list at a key
-/

theorem insertKey_cut {k : key} {v : value} {low high : List (key × value)}
    (hlow : forall e, e ∈ low -> e.1 < k)
    (hhigh : forall e, e ∈ high -> k ≤ e.1) :
    insertKey k v (low ++ high) = low ++ (k, v) :: high := by
  have htake :
      high.takeWhile (fun e => decide (e.1 < k)) = [] := by
    cases high with
    | nil => rfl
    | cons e rest =>
        have he : ¬ e.1 < k := not_lt.mpr (hhigh e (List.mem_cons_self ..))
        simp [he]
  have hdrop :
      high.dropWhile (fun e => decide (e.1 < k)) = high := by
    cases high with
    | nil => rfl
    | cons e rest =>
        have he : ¬ e.1 < k := not_lt.mpr (hhigh e (List.mem_cons_self ..))
        simp [he]
  unfold insertKey
  rw [List.takeWhile_append_of_pos (by simpa using hlow),
    List.dropWhile_append_of_pos (by simpa using hlow), htake, hdrop,
    List.append_nil]

theorem sorted_append_iff {low high : List (key × value)} :
    Sorted (low ++ high) <->
      Sorted low ∧ Sorted high ∧
        forall a, a ∈ low -> forall b, b ∈ high -> a.1 < b.1 := by
  simp [Sorted, List.pairwise_append]

theorem exists_cut {m : List (key × value)} (hm : Sorted m) (k : key) :
    exists low high : List (key × value),
      m = low ++ high ∧ low = m.takeWhile (fun e => decide (e.1 < k)) ∧
        (forall e, e ∈ low -> e.1 < k) ∧
        (forall e, e ∈ high -> k ≤ e.1) := by
  refine
    ⟨m.takeWhile (fun e => decide (e.1 < k)),
      m.dropWhile (fun e => decide (e.1 < k)),
      (List.takeWhile_append_dropWhile).symm, rfl, ?_, ?_⟩
  · intro e he
    simpa using List.mem_takeWhile_imp he
  · intro e he
    induction m with
    | nil => simp at he
    | cons head rest ih =>
        by_cases hhead : head.1 < k
        · rw [List.dropWhile_cons_of_pos (by simpa using hhead)] at he
          exact ih (List.Pairwise.of_cons hm) he
        · rw [List.dropWhile_cons_of_neg (by simpa using hhead)] at he
          rcases List.mem_cons.mp he with rfl | hrest
          · exact not_lt.mp hhead
          · exact le_trans (not_lt.mp hhead)
              (le_of_lt (List.rel_of_pairwise_cons hm hrest))

theorem insertKey_append_left {k : key} {v : value}
    {low m : List (key × value)}
    (hlow : forall e, e ∈ low -> e.1 < k) :
    insertKey k v (low ++ m) = low ++ insertKey k v m := by
  unfold insertKey
  rw [List.takeWhile_append_of_pos (by simpa using hlow),
    List.dropWhile_append_of_pos (by simpa using hlow), List.append_assoc]

theorem insertKey_append_right {k : key} {v : value}
    {m high : List (key × value)}
    (hhigh : forall e, e ∈ high -> k ≤ e.1) :
    insertKey k v (m ++ high) = insertKey k v m ++ high := by
  induction m with
  | nil =>
      exact @insertKey_cut _ _ _ _ _ [] _ (by simp) hhigh
  | cons head rest ih =>
      by_cases hhead : head.1 < k
      · have hone : forall e, e ∈ [head] -> e.1 < k := by simpa using hhead
        have hleft := insertKey_append_left (v := v) (m := rest ++ high) hone
        have hright := insertKey_append_left (v := v) (m := rest) hone
        simp only [List.cons_append, List.nil_append] at hleft hright ⊢
        rw [hleft, hright, ih, List.cons_append]
      · simp [insertKey, hhead]

/-!
## Keys and lookup
-/

theorem mem_insertKey {k : key} {v : value} {m : List (key × value)}
    {e : key × value} :
    e ∈ insertKey k v m <-> e = (k, v) ∨ e ∈ m := by
  conv_rhs =>
    rw [← List.takeWhile_append_dropWhile
      (p := fun e : key × value => decide (e.1 < k)) (l := m)]
  simp only [insertKey, List.mem_append, List.mem_cons]
  tauto

theorem sorted_insertKey {k : key} {v : value} {m : List (key × value)}
    (hm : Sorted m) (habsent : ¬ Bound m k) :
    Sorted (insertKey k v m) := by
  rcases exists_cut hm k with ⟨low, high, rfl, _, hlow, hhigh⟩
  rw [insertKey_cut hlow hhigh]
  rcases sorted_append_iff.mp hm with ⟨hsl, hsh, hcross⟩
  have hstrict : forall e, e ∈ high -> k < e.1 := by
    intro e he
    refine lt_of_le_of_ne (hhigh e he) ?_
    intro hk
    exact habsent ⟨e, List.mem_append_right _ he, hk.symm⟩
  refine sorted_append_iff.mpr ⟨hsl, ?_, ?_⟩
  · exact List.pairwise_cons.mpr ⟨hstrict, hsh⟩
  · intro a ha b hb
    rcases List.mem_cons.mp hb with rfl | hb
    · exact hlow a ha
    · exact hcross a ha b hb

theorem lookup_eq_none_iff_not_bound {m : List (key × value)} {k : key} :
    m.lookup k = none <-> ¬ Bound m k := by
  rw [List.lookup_eq_none_iff]
  constructor
  · rintro h ⟨e, he, rfl⟩
    simpa using h e he
  · intro h e he
    simp only [bne_iff_ne, ne_eq]
    intro hk
    exact h ⟨e, he, hk.symm⟩

theorem lookup_append_of_not_bound_left {m n : List (key × value)} {k : key}
    (h : ¬ Bound m k) : (m ++ n).lookup k = n.lookup k := by
  rw [List.lookup_append, lookup_eq_none_iff_not_bound.mpr h, Option.none_or]

theorem lookup_append_of_not_bound_right {m n : List (key × value)} {k : key}
    (h : ¬ Bound n k) : (m ++ n).lookup k = m.lookup k := by
  rw [List.lookup_append, lookup_eq_none_iff_not_bound.mpr h, Option.or_none]

theorem lookup_insertKey {k q : key} {v : value} {m : List (key × value)}
    (hm : Sorted m) (habsent : ¬ Bound m k) :
    (insertKey k v m).lookup q = if q = k then some v else m.lookup q := by
  rcases exists_cut hm k with ⟨low, high, rfl, _, hlow, hhigh⟩
  rw [insertKey_cut hlow hhigh]
  by_cases hq : q = k
  · subst hq
    have hnot : ¬ Bound low q := fun h =>
      habsent (bound_append.mpr (Or.inl h))
    rw [if_pos rfl, lookup_append_of_not_bound_left hnot]
    simp
  · rw [if_neg hq, List.lookup_append, List.lookup_append, List.lookup_cons]
    have hbeq : (q == k) = false := by simpa using hq
    simp [hbeq]

end KeyedList
end Foundation
end SqlCsvServer
