import Mathlib.Data.List.Induction
import Mathlib.Data.List.InsertIdx
import Mathlib.Data.List.TakeWhile

/-!
# Arrays of fixed size

An access behind the last cell of an array has no outcome, so a program that has one
stayed within its arrays.  What a program keeps in an array is a list that fills its
first cells.
-/

namespace SqlCsvServer
namespace Foundation

variable {α σ τ : Type} {n m : Nat}

/-!
## Counting loops
-/

def downTo (low : Nat) (body : Nat -> σ -> Option σ) : Nat -> σ -> Option σ
  | 0, state => some state
  | index + 1, state =>
      if low < index + 1 then (body (index + 1) state).bind (downTo low body index)
      else some state

def upTo (body : Nat -> σ -> Option σ) : Nat -> σ -> Option σ
  | 0, state => some state
  | count + 1, state => (upTo body count state).bind (body count)

def both (first : Nat -> σ -> Option σ) (second : Nat -> τ -> Option τ)
    (index : Nat) (state : σ × τ) : Option (σ × τ) :=
  (first index state.1).bind fun left =>
    (second index state.2).map fun right => (left, right)

theorem downTo_both {low : Nat} {first : Nat -> σ -> Option σ}
    {second : Nat -> τ -> Option τ} {start : Nat} :
    forall {left leftEnd : σ} {right rightEnd : τ},
      downTo low first start left = some leftEnd ->
      downTo low second start right = some rightEnd ->
        downTo low (both first second) start (left, right) =
          some (leftEnd, rightEnd) := by
  induction start with
  | zero =>
      intro left leftEnd right rightEnd hleft hright
      cases hleft
      cases hright
      rfl
  | succ index ih =>
      intro left leftEnd right rightEnd hleft hright
      rw [downTo] at hleft hright ⊢
      split at hleft
      · next hlow =>
          rw [if_pos hlow] at hright ⊢
          rcases Option.bind_eq_some_iff.mp hleft with ⟨leftNext, hfirst, hleft⟩
          rcases Option.bind_eq_some_iff.mp hright with ⟨rightNext, hsecond, hright⟩
          rw [both, hfirst, Option.bind_some, hsecond]
          exact ih hleft hright
      · next hlow =>
          rw [if_neg hlow] at hright ⊢
          cases hleft
          cases hright
          rfl

theorem upTo_both {first : Nat -> σ -> Option σ} {second : Nat -> τ -> Option τ}
    {count : Nat} {left : σ} {right : τ} :
    forall {leftEnd : σ} {rightEnd : τ},
      upTo first count left = some leftEnd -> upTo second count right = some rightEnd ->
        upTo (both first second) count (left, right) = some (leftEnd, rightEnd) := by
  induction count with
  | zero =>
      intro leftEnd rightEnd hleft hright
      cases hleft
      cases hright
      rfl
  | succ count ih =>
      intro leftEnd rightEnd hleft hright
      rcases Option.bind_eq_some_iff.mp hleft with ⟨leftNext, hleft, hfirst⟩
      rcases Option.bind_eq_some_iff.mp hright with ⟨rightNext, hright, hsecond⟩
      rw [upTo, ih hleft hright, Option.bind_some, both, hfirst, Option.bind_some, hsecond]
      rfl

/-!
## Cells
-/

def readCell (array : Vector α n) (index : Nat) : Option α :=
  array[index]?

def writeCell (array : Vector α n) (index : Nat) (x : α) : Option (Vector α n) :=
  if h : index < n then some (array.set index x h) else none

def shiftCell (index : Nat) (array : Vector α n) : Option (Vector α n) :=
  (readCell array (index - 1)).bind (writeCell array index)

def copyCell (source : Vector α m) (offset index : Nat) (target : Vector α n) :
    Option (Vector α n) :=
  (readCell source (offset + index)).bind (writeCell target index)

def scanCells (array : Vector α n) (test : α -> Bool) : Nat -> Nat -> Option Nat
  | 0, index => some index
  | remaining + 1, index =>
      (readCell array index).bind fun x =>
        if test x then scanCells array test remaining (index + 1) else some index

theorem readCell_at {array : Vector α n} {front rest : List α} {x : α}
    (h : array.toList = front ++ x :: rest) : readCell array front.length = some x := by
  rw [readCell, ← Vector.getElem?_toList, h, List.getElem?_append_right (Nat.le_refl _),
    Nat.sub_self]
  rfl

theorem writeCell_at {array : Vector α n} {front rest : List α} {x : α} (y : α)
    (h : array.toList = front ++ x :: rest) :
    exists written, writeCell array front.length y = some written ∧
      written.toList = front ++ y :: rest := by
  have hlength : front.length < n := by
    have hsize := congrArg List.length h
    rw [Vector.length_toList, List.length_append, List.length_cons] at hsize
    omega
  refine ⟨array.set front.length y hlength, dif_pos hlength, ?_⟩
  rw [Vector.toList_set, h, List.set_append_right _ _ (Nat.le_refl _), Nat.sub_self]
  rfl

theorem downTo_shiftCell {front back rest : List α} {x : α} {array : Vector α n}
    (h : array.toList = front ++ (back ++ x :: rest)) :
    exists shifted y,
      downTo front.length shiftCell (front.length + back.length) array = some shifted ∧
        shifted.toList = front ++ y :: (back ++ rest) := by
  induction back using List.reverseRecOn generalizing array x rest with
  | nil =>
      refine ⟨array, x, ?_, h⟩
      rw [List.length_nil, Nat.add_zero]
      cases hfront : front.length with
      | zero => rfl
      | succ index => exact if_neg (Nat.lt_irrefl _)
  | append_singleton back last ih =>
      have hread : array.toList = (front ++ back) ++ last :: (x :: rest) := by
        rw [h]
        simp only [List.append_assoc, List.cons_append, List.nil_append]
      have hwrite : array.toList = (front ++ (back ++ [last])) ++ x :: rest := by
        rw [h]
        simp only [List.append_assoc]
      rcases writeCell_at last hwrite with ⟨written, hwritten, hcells⟩
      have hnext : written.toList = front ++ (back ++ last :: (last :: rest)) := by
        rw [hcells]
        simp only [List.append_assoc, List.cons_append, List.nil_append]
      rcases ih hnext with ⟨shifted, y, hshifted, hlast⟩
      refine ⟨shifted, y, ?_, ?_⟩
      · have hround : shiftCell (front.length + back.length + 1) array = some written := by
          have hstart := readCell_at hread
          rw [List.length_append] at hstart hwritten
          rw [List.length_append, List.length_singleton, ← Nat.add_assoc] at hwritten
          rw [shiftCell, Nat.add_sub_cancel, hstart, Option.bind_some, hwritten]
        rw [List.length_append, List.length_singleton, ← Nat.add_assoc, downTo,
          if_pos (Nat.lt_succ_of_le (Nat.le_add_right _ _)), hround, Option.bind_some,
          hshifted]
      · rw [hlast, List.append_assoc]
        rfl

/-!
## Lists that fill an array
-/

theorem insertIdx_length_append (left right : List α) (x : α) :
    (left ++ right).insertIdx left.length x = left ++ x :: right := by
  induction left with
  | nil => rfl
  | cons head left ih => simp [ih]

def Fills (array : Vector α n) (items : List α) : Prop :=
  items <+: array.toList

namespace Fills

variable {array : Vector α n} {items : List α}

theorem nil (array : Vector α n) : Fills array [] :=
  List.nil_prefix

theorem take (h : Fills array items) (count : Nat) : Fills array (items.take count) :=
  (List.take_prefix _ _).trans h

theorem take_eq (h : Fills array items) : array.toList.take items.length = items :=
  (List.prefix_iff_eq_take.mp h).symm

theorem length_le (h : Fills array items) : items.length ≤ n := by
  have hlength := List.IsPrefix.length_le h
  rwa [Vector.length_toList] at hlength

theorem read (h : Fills array items) {index : Nat} {x : α}
    (hx : items[index]? = some x) : readCell array index = some x := by
  rcases h with ⟨rest, hrest⟩
  rcases List.getElem?_eq_some_iff.mp hx with ⟨hindex, _⟩
  rw [readCell, ← Vector.getElem?_toList, ← hrest, List.getElem?_append_left hindex, hx]

theorem scan_from {test : α -> Bool} {items : List α} :
    forall {front : List α}, Fills array (front ++ items) ->
      scanCells array test items.length front.length =
        some (front.length + (items.takeWhile test).length) := by
  induction items with
  | nil => intro front _; rfl
  | cons x items ih =>
      intro front h
      have hread : readCell array front.length = some x :=
        h.read (by rw [List.getElem?_append_right (Nat.le_refl _), Nat.sub_self]; rfl)
      rw [List.length_cons, scanCells, hread, Option.bind_some, List.takeWhile_cons]
      split
      · have hmore := @ih (front ++ [x]) (by rwa [List.append_assoc])
        rw [List.length_append, List.length_singleton] at hmore
        rw [hmore, List.length_cons, Nat.add_right_comm, Nat.add_assoc]
      · rfl

theorem scan (h : Fills array items) (test : α -> Bool) :
    scanCells array test items.length 0 = some (items.takeWhile test).length := by
  have hscan := @scan_from α n array test items [] h
  rwa [List.length_nil, Nat.zero_add] at hscan

theorem insert (h : Fills array items) (hroom : items.length < n) {index : Nat}
    (hindex : index ≤ items.length) (x : α) :
    exists shifted written, downTo index shiftCell items.length array = some shifted ∧
      writeCell shifted index x = some written ∧
        Fills written (items.insertIdx index x) := by
  rcases h with ⟨spare, hspare⟩
  cases spare with
  | nil =>
      have hsize := congrArg List.length hspare
      rw [List.append_nil, Vector.length_toList] at hsize
      omega
  | cons free spare =>
      have hfront : (items.take index).length = index :=
        List.length_take_of_le hindex
      have hcells : array.toList =
          items.take index ++ (items.drop index ++ free :: spare) := by
        rw [← List.append_assoc, List.take_append_drop, hspare]
      rcases downTo_shiftCell hcells with ⟨shifted, y, hshifted, hmoved⟩
      rcases writeCell_at x hmoved with ⟨written, hwritten, hlast⟩
      rw [hfront] at hshifted hwritten
      rw [List.length_drop, Nat.add_sub_cancel' hindex] at hshifted
      refine ⟨shifted, written, hshifted, hwritten, spare, ?_⟩
      have hinsert := insertIdx_length_append (items.take index) (items.drop index) x
      rw [hfront, List.take_append_drop] at hinsert
      rw [hlast, hinsert, List.append_assoc]
      rfl

theorem append (h : Fills array items) (hroom : items.length < n) (x : α) :
    exists written, writeCell array items.length x = some written ∧
      Fills written (items ++ [x]) := by
  rcases h with ⟨spare, hspare⟩
  cases spare with
  | nil =>
      have hsize := congrArg List.length hspare
      rw [List.append_nil, Vector.length_toList] at hsize
      omega
  | cons free spare =>
      rcases writeCell_at x hspare.symm with ⟨written, hwritten, hlast⟩
      refine ⟨written, hwritten, spare, ?_⟩
      rw [hlast, List.append_assoc]
      rfl

theorem upTo_read (h : Fills array items) (step : σ -> α -> Option σ) (state : σ) :
    upTo (fun index state => (readCell array index).bind (step state)) items.length state =
      items.foldlM step state := by
  have hfirst : forall count, count ≤ items.length ->
      upTo (fun index state => (readCell array index).bind (step state)) count state =
        (items.take count).foldlM step state := by
    intro count
    induction count with
    | zero => intro _; rfl
    | succ count ih =>
        intro hcount
        have hread : readCell array count = some items[count] :=
          h.read (List.getElem?_eq_getElem hcount)
        rw [upTo, ih (Nat.le_of_lt hcount), List.take_succ_eq_append_getElem hcount,
          List.foldlM_append, hread]
        refine Option.bind_congr fun reached _ => ?_
        rw [Option.bind_some, List.foldlM_cons]
        exact (bind_pure _).symm
  rw [hfirst items.length (Nat.le_refl _), List.take_length]

theorem copy_take {source : Vector α m} {target : Vector α n} {items : List α}
    (h : Fills source items) {offset count : Nat}
    (hcount : offset + count ≤ items.length) (hroom : count ≤ n) :
    exists copied, upTo (copyCell source offset) count target = some copied ∧
      Fills copied ((items.drop offset).take count) := by
  induction count with
  | zero => exact ⟨target, rfl, nil target⟩
  | succ count ih =>
      rcases ih (by omega) (by omega) with ⟨copied, hcopied, hfills⟩
      have hbound : count < (items.drop offset).length := by
        rw [List.length_drop]
        omega
      have hitem : items[offset + count]? = some (items.drop offset)[count] := by
        rw [← List.getElem?_drop, List.getElem?_eq_getElem hbound]
      have hfront : ((items.drop offset).take count).length = count :=
        List.length_take_of_le (Nat.le_of_lt hbound)
      rcases hfills.append (by rw [hfront]; omega) (items.drop offset)[count] with
        ⟨written, hwritten, hlast⟩
      rw [hfront] at hwritten
      refine ⟨written, ?_, ?_⟩
      · rw [upTo, hcopied, Option.bind_some, copyCell, h.read hitem, Option.bind_some,
          hwritten]
      · rwa [List.take_succ_eq_append_getElem hbound]

theorem copy {source : Vector α m} (h : Fills source items) (target : Vector α n)
    {offset count : Nat} (hcount : offset + count = items.length) (hroom : count ≤ n) :
    exists copied, upTo (copyCell source offset) count target = some copied ∧
      Fills copied (items.drop offset) := by
  have hall := @copy_take α n m source target items h offset count
    (Nat.le_of_eq hcount) hroom
  rwa [List.take_of_length_le (by rw [List.length_drop]; omega)] at hall

end Fills

end Foundation
end SqlCsvServer
