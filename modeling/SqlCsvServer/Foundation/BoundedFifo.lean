import Mathlib.Data.List.Basic

/-!
# Bounded queues as lists

A queue that can be closed, with room for so many items.  It is the list of what
waits; an operation that would have to block gives no answer.  A run of operations
is a list of them, each on the state the one before has left.
-/

namespace SqlCsvServer
namespace Foundation

/-!
## Runs of operations
-/

section Runs

variable {σ τ ω ρ : Type}

/-- All operations in a row with their answers, unless one of them blocks. -/
def runOperations (step : σ -> ω -> Option (σ × ρ)) :
    List ω -> σ -> Option (σ × List ρ)
  | [], s => some (s, [])
  | operation :: operations, s =>
      (step s operation).bind fun taken =>
        (runOperations step operations taken.1).map fun run =>
          (run.1, taken.2 :: run.2)

theorem runOperations_view {step : σ -> ω -> Option (σ × ρ)}
    {viewStep : τ -> ω -> Option (τ × ρ)} {view : σ -> τ}
    (h : forall s operation,
      (step s operation).map (Prod.map view id) = viewStep (view s) operation)
    (operations : List ω) (s : σ) :
    (runOperations step operations s).map (Prod.map view id) =
      runOperations viewStep operations (view s) := by
  induction operations generalizing s with
  | nil => rfl
  | cons operation operations ih =>
      simp only [runOperations, ← h]
      cases step s operation with
      | none => rfl
      | some taken =>
          have hrest := ih taken.1
          simp only [Option.bind_some, Option.map_some, Prod.map_fst,
            Prod.map_snd, id_eq, ← hrest]
          cases runOperations step operations taken.1 with
          | none => rfl
          | some run => rfl

end Runs

/-!
## The queue
-/

/-- What waits in a queue, the oldest first. -/
structure BoundedFifo (α : Type) (capacity : Nat) where
  waiting : List α
  closed : Bool
  waiting_le : waiting.length ≤ capacity

inductive FifoOperation (α : Type) where
  | tryPush (item : α)
  | pop
  | close
  | depth
deriving DecidableEq

inductive FifoAnswer (α : Type) where
  | pushed (accepted : Bool)
  /-- `none` says that nothing will ever come. -/
  | popped (item : Option α)
  | closed
  | depth (count : Nat)
deriving DecidableEq

namespace BoundedFifo

variable {α : Type} {capacity : Nat}

/-- An open queue that holds nothing. -/
def empty (α : Type) (capacity : Nat) : BoundedFifo α capacity :=
  { waiting := [], closed := false, waiting_le := Nat.zero_le _ }

@[ext] theorem ext {a b : BoundedFifo α capacity}
    (hwaiting : a.waiting = b.waiting) (hclosed : a.closed = b.closed) :
    a = b := by
  cases a
  cases b
  cases hwaiting
  cases hclosed
  rfl

def push (fifo : BoundedFifo α capacity) (item : α)
    (hroom : fifo.waiting.length < capacity) : BoundedFifo α capacity :=
  { waiting := fifo.waiting ++ [item]
    closed := fifo.closed
    waiting_le := by
      rw [List.length_append]
      exact hroom }

/-- The oldest item leaves. -/
def tail (fifo : BoundedFifo α capacity) : BoundedFifo α capacity :=
  { waiting := fifo.waiting.tail
    closed := fifo.closed
    waiting_le := by
      rw [List.length_tail]
      exact Nat.le_trans (Nat.sub_le _ _) fifo.waiting_le }

/-- One operation; a pop on an open queue that holds nothing blocks. -/
def step (fifo : BoundedFifo α capacity) :
    FifoOperation α -> Option (BoundedFifo α capacity × FifoAnswer α)
  | .tryPush item =>
      if h : fifo.closed = false ∧ fifo.waiting.length < capacity then
        some (fifo.push item h.2, .pushed true)
      else some (fifo, .pushed false)
  | .pop =>
      if fifo.waiting = [] then
        if fifo.closed then some (fifo, .popped none) else none
      else some (fifo.tail, .popped fifo.waiting.head?)
  | .close => some ({ fifo with closed := true }, .closed)
  | .depth => some (fifo, .depth fifo.waiting.length)

section Step

variable {fifo : BoundedFifo α capacity}

theorem step_push_accepted {item : α} (hopen : fifo.closed = false)
    (hroom : fifo.waiting.length < capacity) :
    fifo.step (.tryPush item) = some (fifo.push item hroom, .pushed true) :=
  dif_pos ⟨hopen, hroom⟩

theorem step_push_refused {item : α}
    (h : ¬ (fifo.closed = false ∧ fifo.waiting.length < capacity)) :
    fifo.step (.tryPush item) = some (fifo, .pushed false) :=
  dif_neg h

theorem step_pop_blocks (hwaiting : fifo.waiting = [])
    (hopen : fifo.closed = false) : fifo.step .pop = none := by
  simp [step, hwaiting, hopen]

theorem step_pop_finished (hwaiting : fifo.waiting = [])
    (hclosed : fifo.closed = true) :
    fifo.step .pop = some (fifo, .popped none) := by
  simp [step, hwaiting, hclosed]

theorem step_pop_item {item : α} {rest : List α}
    (hwaiting : fifo.waiting = item :: rest) :
    fifo.step .pop = some (fifo.tail, .popped (some item)) := by
  simp [step, hwaiting]

end Step

end BoundedFifo

/-!
## What went in and what came out
-/

section History

variable {α : Type} {capacity : Nat}

def acceptedItem : FifoOperation α × FifoAnswer α -> List α
  | (.tryPush item, .pushed true) => [item]
  | _ => []

def poppedItem : FifoAnswer α -> List α
  | .popped (some item) => [item]
  | _ => []

/-- The items accepted in a run, in order. -/
def acceptedItems (operations : List (FifoOperation α))
    (answers : List (FifoAnswer α)) : List α :=
  (operations.zip answers).flatMap acceptedItem

/-- The items popped in a run, in order. -/
def poppedItems (answers : List (FifoAnswer α)) : List α :=
  answers.flatMap poppedItem

namespace BoundedFifo

theorem step_conserves {fifo after : BoundedFifo α capacity}
    {operation : FifoOperation α} {answer : FifoAnswer α}
    (h : fifo.step operation = some (after, answer)) :
    fifo.waiting ++ acceptedItem (operation, answer) =
        poppedItem answer ++ after.waiting ∧
      (after.closed = true <-> fifo.closed = true ∨ operation = .close) := by
  cases operation with
  | tryPush item =>
      by_cases hroom : fifo.closed = false ∧ fifo.waiting.length < capacity
      · rw [step_push_accepted hroom.1 hroom.2] at h
        cases h
        exact ⟨rfl, by simp [push]⟩
      · rw [step_push_refused hroom] at h
        cases h
        exact ⟨List.append_nil _, by simp⟩
  | pop =>
      cases hwaiting : fifo.waiting with
      | nil =>
          cases hclosed : fifo.closed with
          | false =>
              rw [step_pop_blocks hwaiting hclosed] at h
              cases h
          | true =>
              rw [step_pop_finished hwaiting hclosed] at h
              cases h
              simp [hwaiting, hclosed, acceptedItem, poppedItem]
      | cons item rest =>
          rw [step_pop_item hwaiting] at h
          cases h
          simp [tail, hwaiting, acceptedItem, poppedItem]
  | close =>
      simp only [step, Option.some.injEq, Prod.mk.injEq] at h
      rcases h with ⟨rfl, rfl⟩
      simp [acceptedItem, poppedItem]
  | depth =>
      simp only [step, Option.some.injEq, Prod.mk.injEq] at h
      rcases h with ⟨rfl, rfl⟩
      simp [acceptedItem, poppedItem]

/--
Over a whole run the items that waited before and those that were accepted are
the popped ones, in this order, followed by those that still wait.
-/
theorem runOperations_conserves (operations : List (FifoOperation α)) :
    forall {fifo after : BoundedFifo α capacity} {answers : List (FifoAnswer α)},
      runOperations step operations fifo = some (after, answers) ->
        fifo.waiting ++ acceptedItems operations answers =
            poppedItems answers ++ after.waiting ∧
          (after.closed = true <->
            fifo.closed = true ∨ FifoOperation.close ∈ operations) := by
  induction operations with
  | nil =>
      intro fifo after answers h
      simp only [runOperations, Option.some.injEq, Prod.mk.injEq] at h
      rcases h with ⟨rfl, rfl⟩
      simp [acceptedItems, poppedItems]
  | cons operation operations ih =>
      intro fifo after answers h
      rw [runOperations] at h
      cases hstep : fifo.step operation with
      | none =>
          rw [hstep] at h
          cases h
      | some taken =>
          rcases taken with ⟨next, answer⟩
          rw [hstep, Option.bind_some] at h
          rcases Option.map_eq_some_iff.mp h with ⟨⟨last, more⟩, hrest, hpair⟩
          rcases Prod.mk.inj hpair with ⟨rfl, rfl⟩
          rcases step_conserves hstep with ⟨hitems, hclosed⟩
          rcases ih hrest with ⟨hmore, hlast⟩
          constructor
          · have hsplit : acceptedItems (operation :: operations)
                (answer :: more) =
                acceptedItem (operation, answer) ++
                  acceptedItems operations more :=
              List.flatMap_cons
            have hpopped : poppedItems (answer :: more) =
                poppedItem answer ++ poppedItems more :=
              List.flatMap_cons
            rw [hsplit, hpopped, ← List.append_assoc, hitems,
              List.append_assoc, hmore, List.append_assoc]
          · rw [hlast, hclosed, List.mem_cons, or_assoc,
              @eq_comm _ operation]

end BoundedFifo

end History

end Foundation
end SqlCsvServer
