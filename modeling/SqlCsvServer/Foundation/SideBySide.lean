import Mathlib.Data.Bool.Basic
import SqlCsvServer.Foundation.LockSystem

/-!
# Two threads on parts of their own

Each of two threads works on the part of the state that goes by its name, and reaches it
through references.  A reference is good while the place it points into stays.  If a
step that moves the place is taken only while the other thread is not going to use a
reference, then the threads leave what they leave one after the other.
-/

namespace SqlCsvServer
namespace Foundation

/--
The parts of a state and their names, which parts have a place, which references are good,
the place they point into, and its shape, which decides how a part without a place gets
one; some property of the state holds all the time.
-/
structure Sharing (α μ σ ν β ω : Type) where
  part : α -> σ -> ν
  known : ν -> Prop
  live : α -> μ -> σ -> Prop
  place : σ -> β
  shape : σ -> ω
  fits : σ -> Prop

def WillUse {κ μ σ ρ : Type} (reference : μ) : LockProgram κ μ σ ρ -> Prop
  | .done _ => False
  | .lock _ _ => False
  | .unlock _ next => WillUse reference next
  | .act used _ next => used = some reference ∨ exists s, WillUse reference (next s)
  | .choose next => exists refused, WillUse reference (next refused)

def nextReference {κ μ σ ρ : Type} : LockProgram κ μ σ ρ -> Option μ
  | .act reference _ _ => reference
  | _ => none

theorem act_of_nextReference {κ μ σ ρ : Type} {program : LockProgram κ μ σ ρ}
    {reference : μ} (h : nextReference program = some reference) :
    exists update next, program = .act (some reference) update next := by
  cases program with
  | act used update next =>
      change used = some reference at h
      exact ⟨update, next, by rw [h]⟩
  | done result => cases h
  | lock key next => cases h
  | unlock key next => cases h
  | choose next => cases h

inductive Ends {κ μ σ ρ : Type} (result : ρ) : LockProgram κ μ σ ρ -> Prop where
  | done : Ends result (.done result)
  | unlock {key : κ} {next : LockProgram κ μ σ ρ} (h : Ends result next) :
      Ends result (.unlock key next)

theorem Ends.run {κ μ σ ρ : Type} {result : ρ} {program : LockProgram κ μ σ ρ}
    (h : Ends result program) (s : σ) : program.run s = (s, result) := by
  induction h with
  | done => rfl
  | unlock _ ih => exact ih

namespace Sharing

variable {α κ μ σ ν β ω ρ : Type} (S : Sharing α μ σ ν β ω)

/-!
## Steps
-/

structure Touches (name : α) (s t : σ) : Prop where
  fits : S.fits t
  others : forall other, other ≠ name -> S.part other t = S.part other s
  live : S.place t = S.place s -> forall other reference,
    S.live other reference s -> S.live other reference t
  settled : S.known (S.part name s) ->
    S.known (S.part name t) ∧ S.place t = S.place s ∧ S.shape t = S.shape s

structure Similar (name : α) (s t : σ) : Prop where
  left : S.fits s
  right : S.fits t
  part : S.part name s = S.part name t
  known : S.known (S.part name s)

structure Matches (name : α) (s t s' t' : σ) : Prop where
  left : S.Touches name s s'
  right : S.Touches name t t'
  part : S.part name s' = S.part name t'

structure Keeps (name : α) (s t : σ) : Prop where
  fits : S.fits t
  others : forall other, other ≠ name -> S.part other t = S.part other s
  shape : S.shape t = S.shape s

section Steps

variable {S} {name : α} {s t s' t' : σ}

theorem Touches.refl (h : S.fits s) : S.Touches name s s :=
  { fits := h
    others := fun _ _ => rfl
    live := fun _ _ _ hlive => hlive
    settled := fun hknown => ⟨hknown, rfl, rfl⟩ }

theorem Similar.refl (h : S.fits s) (hknown : S.known (S.part name s)) :
    S.Similar name s s :=
  { left := h, right := h, part := rfl, known := hknown }

theorem Similar.known_right (h : S.Similar name s t) : S.known (S.part name t) :=
  h.part ▸ h.known

theorem Similar.step (h : S.Similar name s t) (hstep : S.Matches name s t s' t') :
    S.Similar name s' t' :=
  { left := hstep.left.fits
    right := hstep.right.fits
    part := hstep.part
    known := (hstep.left.settled h.known).1 }

theorem Keeps.refl (h : S.fits s) : S.Keeps name s s :=
  { fits := h, others := fun _ _ => rfl, shape := rfl }

theorem Touches.keeps (h : S.Touches name s s') (hknown : S.known (S.part name s))
    (hmore : S.Keeps name s' t) : S.Keeps name s t :=
  { fits := hmore.fits
    others := fun other hne => (hmore.others other hne).trans (h.others other hne)
    shape := hmore.shape.trans (h.settled hknown).2.2 }

theorem Touches.live_self (h : S.Touches name s s') (hknown : S.known (S.part name s))
    {reference : μ} (hlive : S.live name reference s) : S.live name reference s' :=
  h.live (h.settled hknown).2.1 name reference hlive

end Steps

/-!
## Programs
-/

/--
Two programs of a thread with a place of its own that differ in the references they go
through, each through the good one in its own state; `held` is the pair they hold.
-/
inductive Alike (name : α) (after : Option (μ × μ) -> ρ -> ρ -> Prop) :
    Option (μ × μ) -> LockProgram κ μ σ ρ -> LockProgram κ μ σ ρ -> Prop where
  | done {held : Option (μ × μ)} {result other : ρ} (h : after held result other) :
      Alike name after held (.done result) (.done other)
  | lock {held : Option (μ × μ)} {key : κ} {next more : LockProgram κ μ σ ρ}
      (h : Alike name after none next more) :
      Alike name after held (.lock key next) (.lock key more)
  | unlock {held : Option (μ × μ)} {key : κ} {next more : LockProgram κ μ σ ρ}
      (h : Alike name after held next more) :
      Alike name after held (.unlock key next) (.unlock key more)
  | keep {held : Option (μ × μ)} {update change : σ -> σ}
      {next more : σ -> LockProgram κ μ σ ρ}
      (hstep : forall s t, S.Similar name s t -> S.Matches name s t (update s) (change t))
      (hnext : forall s t, S.Similar name s t -> Alike name after held (next s) (more t)) :
      Alike name after held (.act none update next) (.act none change more)
  | use {reference other : μ} {update change : σ -> σ}
      {next more : σ -> LockProgram κ μ σ ρ}
      (hstep : forall s t, S.Similar name s t -> S.live name reference s ->
        S.live name other t -> S.Matches name s t (update s) (change t))
      (hnext : forall s t, S.Similar name s t -> S.live name reference s ->
        S.live name other t -> Alike name after (some (reference, other)) (next s) (more t)) :
      Alike name after (some (reference, other)) (.act (some reference) update next)
        (.act (some other) change more)
  | find {update change : σ -> σ} {next more : σ -> LockProgram κ μ σ ρ}
      (found also : σ -> μ)
      (hstep : forall s t, S.Similar name s t -> S.Matches name s t (update s) (change t))
      (hlive : forall s t, S.Similar name s t ->
        S.live name (found s) (update s) ∧ S.live name (also t) (change t))
      (hnext : forall s t, S.Similar name s t ->
        Alike name after (some (found s, also t)) (next s) (more t)) :
      Alike name after none (.act none update next) (.act none change more)

section Alike

variable {S} {name : α} {held : Option (μ × μ)} {P Q : LockProgram κ μ σ ρ}

theorem Alike.andThen {γ : Type} {mid : Option (μ × μ) -> γ -> γ -> Prop}
    {after : Option (μ × μ) -> ρ -> ρ -> Prop} {first second : LockProgram κ μ σ γ}
    {next more : γ -> LockProgram κ μ σ ρ} (h : S.Alike name mid held first second)
    (hnext : forall held result other, mid held result other ->
      S.Alike name after held (next result) (more other)) :
    S.Alike name after held (first.andThen next) (second.andThen more) := by
  induction h with
  | done hmid => exact hnext _ _ _ hmid
  | lock _ ih => exact .lock ih
  | unlock _ ih => exact .unlock ih
  | keep hstep _ ih => exact .keep hstep ih
  | use hstep _ ih => exact .use hstep ih
  | find found also hstep hlive _ ih => exact .find found also hstep hlive ih

variable (S) in
abbrev Returning (name : α) (held : Option (μ × μ)) (P Q : LockProgram κ μ σ ρ) : Prop :=
  S.Alike name (fun _ => Eq) held P Q

theorem Returning.of_ends {result : ρ} (h : Ends result P) : S.Returning name held P P := by
  induction h with
  | done => exact .done rfl
  | unlock _ ih => exact .unlock ih

variable (S) in
def LiveFor (name : α) (held : Option (μ × μ)) (s t : σ) : Prop :=
  forall reference other, held = some (reference, other) ->
    S.live name reference s ∧ S.live name other t

theorem liveFor_none (s t : σ) : S.LiveFor name none s t :=
  fun _ _ hnone => by cases hnone

theorem liveFor_pair {reference other : μ} {s t : σ} (hs : S.live name reference s)
    (ht : S.live name other t) : S.LiveFor name (some (reference, other)) s t := by
  intro found also hpair
  cases hpair
  exact ⟨hs, ht⟩

theorem LiveFor.step {s t s' t' : σ} (h : S.LiveFor name held s t)
    (hsimilar : S.Similar name s t) (hstep : S.Matches name s t s' t') :
    S.LiveFor name held s' t' := by
  intro reference other hheld
  rcases h reference other hheld with ⟨hleft, hright⟩
  exact ⟨hstep.left.live_self hsimilar.known hleft,
    hstep.right.live_self hsimilar.known_right hright⟩

variable (S) in
structure SameEnd (name : α) (s t : σ) (left right : σ × ρ) : Prop where
  part : S.part name left.1 = S.part name right.1
  result : left.2 = right.2
  left : S.Keeps name s left.1
  right : S.Keeps name t right.1

theorem SameEnd.behind {s t s' t' : σ} {left right : σ × ρ}
    (h : S.SameEnd name s' t' left right) (hsimilar : S.Similar name s t)
    (hstep : S.Matches name s t s' t') : S.SameEnd name s t left right :=
  { part := h.part
    result := h.result
    left := hstep.left.keeps hsimilar.known h.left
    right := hstep.right.keeps hsimilar.known_right h.right }

theorem Alike.run (h : S.Returning name held P Q) :
    forall {s t : σ}, S.Similar name s t -> S.LiveFor name held s t ->
      S.SameEnd name s t (P.run s) (Q.run t) := by
  induction h with
  | done hafter =>
      intro s t hsimilar _
      exact ⟨hsimilar.part, hafter, Keeps.refl hsimilar.left, Keeps.refl hsimilar.right⟩
  | lock _ ih => exact fun hsimilar _ => ih hsimilar (liveFor_none _ _)
  | unlock _ ih => exact fun hsimilar hlive => ih hsimilar hlive
  | keep hstep _ ih =>
      intro s t hsimilar hlive
      have hmatch := hstep s t hsimilar
      exact (ih s t hsimilar (hsimilar.step hmatch) (hlive.step hsimilar hmatch)).behind
        hsimilar hmatch
  | use hstep _ ih =>
      intro s t hsimilar hlive
      rcases hlive _ _ rfl with ⟨hs, ht⟩
      have hmatch := hstep s t hsimilar hs ht
      exact (ih s t hsimilar hs ht (hsimilar.step hmatch)
        (hlive.step hsimilar hmatch)).behind hsimilar hmatch
  | find found also hstep hfound _ ih =>
      intro s t hsimilar _
      have hmatch := hstep s t hsimilar
      rcases hfound s t hsimilar with ⟨hs, ht⟩
      exact (ih s t hsimilar (hsimilar.step hmatch) (liveFor_pair hs ht)).behind
        hsimilar hmatch

theorem Alike.drop {reference other : μ}
    (h : S.Returning name (some (reference, other)) P Q)
    (hunused : ¬ WillUse reference P) : S.Returning name none P Q := by
  generalize hheld : some (reference, other) = held at h
  induction h with
  | done hafter => exact .done hafter
  | lock hnext _ => exact .lock hnext
  | unlock _ ih => exact .unlock (ih hunused hheld)
  | keep hstep _ ih =>
      refine .keep hstep fun s t hsimilar => ih s t hsimilar (fun huse => ?_) hheld
      exact hunused (Or.inr ⟨s, huse⟩)
  | use hstep _ ih =>
      cases hheld
      exact (hunused (Or.inl rfl)).elim
  | find found also hstep hlive _ ih => cases hheld

end Alike

/-!
## Before and after the first look
-/

/--
Two programs behind the look that got them their place: they hold good references, or
the look failed and they are at their end.
-/
inductive Begun (name : α) (s t : σ) (P Q : LockProgram κ μ σ ρ) : Prop where
  | works {held : Option (μ × μ)} (hknown : S.known (S.part name s))
      (hlive : S.LiveFor name held s t) (h : S.Returning name held P Q) :
      Begun name s t P Q
  | ends {result : ρ} (hleft : Ends result P) (hright : Ends result Q) :
      Begun name s t P Q

/--
A program that has only looked at its part so far.  The first other step gets it a place;
that one depends on the part and on the shape.
-/
inductive Fresh (name : α) : LockProgram κ μ σ ρ -> Prop where
  | done {result : ρ} : Fresh name (.done result)
  | lock {key : κ} {next : LockProgram κ μ σ ρ} (h : Fresh name next) :
      Fresh name (.lock key next)
  | read {next : σ -> LockProgram κ μ σ ρ}
      (hsame : forall s t, S.part name s = S.part name t -> next s = next t)
      (hnext : forall s, Fresh name (next s)) : Fresh name (.act none id next)
  | look {update : σ -> σ} {next : σ -> LockProgram κ μ σ ρ}
      (hstep : forall s t, S.fits s -> S.fits t -> S.part name s = S.part name t ->
        S.shape s = S.shape t -> S.Matches name s t (update s) (update t) ∧
          S.shape (update s) = S.shape (update t))
      (hnext : forall s t, S.fits s -> S.fits t -> S.part name s = S.part name t ->
        S.shape s = S.shape t -> S.Begun name (update s) (update t) (next s) (next t)) :
      Fresh name (.act none update next)

/-- What a program that started afresh leaves, from either of two states. -/
structure Outcome (name : α) (s : σ) (left right : σ × ρ) : Prop where
  part : S.part name left.1 = S.part name right.1
  result : left.2 = right.2
  shape : S.shape left.1 = S.shape right.1
  fits : S.fits left.1
  others : forall other, other ≠ name -> S.part other left.1 = S.part other s

inductive Moves {κ μ σ ρ : Type} :
    LockProgram κ μ σ ρ -> σ -> LockProgram κ μ σ ρ -> σ -> Prop where
  | lock {key : κ} {next : LockProgram κ μ σ ρ} {s : σ} : Moves (.lock key next) s next s
  | unlock {key : κ} {next : LockProgram κ μ σ ρ} {s : σ} :
      Moves (.unlock key next) s next s
  | act {reference : Option μ} {update : σ -> σ} {next : σ -> LockProgram κ μ σ ρ} {s : σ} :
      Moves (.act reference update next) s (next s) (update s)
  | choose {next : Bool -> LockProgram κ μ σ ρ} (refused : Bool) {s : σ} :
      Moves (.choose next) s (next refused) s

section Begun

variable {S} {name : α} {s t s' : σ} {P Q P' : LockProgram κ μ σ ρ}

theorem Begun.run (h : S.Begun name s t P Q) (hs : S.fits s) (ht : S.fits t)
    (hpart : S.part name s = S.part name t) :
    S.SameEnd name s t (P.run s) (Q.run t) := by
  cases h with
  | works hknown hlive h => exact h.run ⟨hs, ht, hpart, hknown⟩ hlive
  | ends hleft hright =>
      rw [hleft.run s, hright.run t]
      exact ⟨hpart, rfl, Keeps.refl hs, Keeps.refl ht⟩

theorem Begun.step (h : S.Begun name s s P P) (hs : S.fits s) (hmove : Moves P s P' s') :
    S.Touches name s s' ∧ S.shape s' = S.shape s ∧ S.Begun name s' s' P' P' ∧
      P'.run s' = P.run s := by
  cases h with
  | works hknown hlive h =>
      have hsimilar := Similar.refl hs hknown
      have hbehind : forall {s' : σ} {held : Option (μ × μ)} {P' : LockProgram κ μ σ ρ},
          S.Matches name s s s' s' -> S.LiveFor name held s' s' ->
            S.Returning name held P' P' -> P'.run s' = P.run s ->
              S.Touches name s s' ∧ S.shape s' = S.shape s ∧ S.Begun name s' s' P' P' ∧
                P'.run s' = P.run s := by
        intro s' held P' hmatch hlive h hrun
        rcases hmatch.left.settled hknown with ⟨hthere, _, hshape⟩
        exact ⟨hmatch.left, hshape, .works hthere hlive h, hrun⟩
      have hstill : S.Matches name s s s s := ⟨.refl hs, .refl hs, rfl⟩
      cases hmove with
      | lock =>
          cases h with
          | lock hnext => exact hbehind hstill (liveFor_none s s) hnext rfl
      | unlock =>
          cases h with
          | unlock hnext => exact hbehind hstill hlive hnext rfl
      | act =>
          cases h with
          | keep hstep hnext =>
              have hmatch := hstep s s hsimilar
              exact hbehind hmatch (hlive.step hsimilar hmatch) (hnext s s hsimilar) rfl
          | use hstep hnext =>
              rcases hlive _ _ rfl with ⟨hleft, hright⟩
              have hmatch := hstep s s hsimilar hleft hright
              exact hbehind hmatch (hlive.step hsimilar hmatch)
                (hnext s s hsimilar hleft hright) rfl
          | find found also hstep hfound hnext =>
              rcases hfound s s hsimilar with ⟨hleft, hright⟩
              exact hbehind (hstep s s hsimilar) (liveFor_pair hleft hright)
                (hnext s s hsimilar) rfl
      | choose refused => cases h
  | ends hleft _ =>
      cases hleft with
      | done => cases hmove
      | unlock hnext =>
          cases hmove
          exact ⟨.refl hs, rfl, .ends hnext hnext, rfl⟩

/--
A step of the other thread changes nothing for this one, unless it moves the place under
a reference that is still in use.
-/
theorem Begun.other (h : S.Begun name s s P P) (hs : S.fits s) (ht : S.fits t)
    (hpart : S.part name t = S.part name s)
    (hkept : S.place t = S.place s -> forall reference,
      S.live name reference s -> S.live name reference t)
    (hstay : S.place t = S.place s ∨ forall reference : μ, ¬ WillUse reference P) :
    S.Begun name t t P P ∧ S.SameEnd name s t (P.run s) (P.run t) := by
  cases h with
  | works hknown hlive h =>
      rename_i held
      have hthere : S.known (S.part name t) := hpart ▸ hknown
      have hsimilar : S.Similar name s t := ⟨hs, ht, hpart.symm, hknown⟩
      rcases hstay with hstay | hunused
      · have hboth : S.LiveFor name held s t := fun reference other hheld =>
          ⟨(hlive reference other hheld).1,
            hkept hstay other (hlive reference other hheld).2⟩
        have hmoved : S.LiveFor name held t t := fun reference other hheld =>
          ⟨hkept hstay reference (hlive reference other hheld).1,
            hkept hstay other (hlive reference other hheld).2⟩
        exact ⟨.works hthere hmoved h, h.run hsimilar hboth⟩
      · have hnone : S.Returning name none P P := by
          cases held with
          | none => exact h
          | some pair => exact h.drop (hunused pair.1)
        exact ⟨.works hthere (liveFor_none t t) hnone, hnone.run hsimilar (liveFor_none s t)⟩
  | ends hleft hright =>
      refine ⟨.ends hleft hright, ?_⟩
      rw [hleft.run s, hright.run t]
      exact ⟨hpart.symm, rfl, Keeps.refl hs, Keeps.refl ht⟩

theorem Fresh.run (h : S.Fresh name P) :
    forall {s t : σ}, S.fits s -> S.fits t -> S.part name s = S.part name t ->
      S.shape s = S.shape t -> S.Outcome name s (P.run s) (P.run t) := by
  induction h with
  | done => exact fun hs _ hpart hshape => ⟨hpart, rfl, hshape, hs, fun _ _ => rfl⟩
  | lock _ ih => exact ih
  | read hsame _ ih =>
      intro s t hs ht hpart hshape
      have hrun := ih s hs ht hpart hshape
      rw [LockProgram.run_act, LockProgram.run_act, ← hsame s t hpart]
      exact hrun
  | look hstep hnext =>
      intro s t hs ht hpart hshape
      rcases hstep s t hs ht hpart hshape with ⟨hmatch, hlooked⟩
      have hend := (hnext s t hs ht hpart hshape).run hmatch.left.fits hmatch.right.fits
        hmatch.part
      exact
        { part := hend.part
          result := hend.result
          shape := hend.left.shape.trans (hlooked.trans hend.right.shape.symm)
          fits := hend.left.fits
          others := fun other hne =>
            (hend.left.others other hne).trans (hmatch.left.others other hne) }

theorem Fresh.step (h : S.Fresh name P) (hs : S.fits s) (hmove : Moves P s P' s') :
    s' = s ∧ S.Fresh name P' ∧
        (forall t, S.part name t = S.part name s -> P'.run t = P.run t) ∨
      S.Touches name s s' ∧ S.Begun name s' s' P' P' ∧ P'.run s' = P.run s := by
  cases h with
  | done => cases hmove
  | lock hnext =>
      cases hmove
      exact Or.inl ⟨rfl, hnext, fun _ _ => rfl⟩
  | read hsame hnext =>
      cases hmove
      refine Or.inl ⟨rfl, hnext s, fun t hpart => ?_⟩
      rw [LockProgram.run_act, hsame t s hpart]
      rfl
  | look hstep hnext =>
      cases hmove
      exact Or.inr ⟨(hstep s s hs hs rfl rfl).1.left, hnext s s hs hs rfl rfl, rfl⟩

end Begun

/-!
## The two threads
-/

section Threads

variable (names : Bool -> α) (whole : Bool -> LockProgram κ μ σ ρ) (first : σ)

/-- The state one thread alone leaves. -/
def behind (thread : Bool) : σ :=
  ((whole thread).run first).1

structure FreshAt (threads : Threads Bool κ μ σ ρ) (thread : Bool) : Prop where
  fresh : S.Fresh (names thread) (threads.program thread)
  part : S.part (names thread) threads.shared = S.part (names thread) first
  run : forall s, S.part (names thread) s = S.part (names thread) first ->
    (threads.program thread).run s = (whole thread).run s

structure BegunAt (entry : σ) (threads : Threads Bool κ μ σ ρ) (thread : Bool) : Prop where
  begun : S.Begun (names thread) threads.shared threads.shared (threads.program thread)
    (threads.program thread)
  part : S.part (names thread) ((threads.program thread).run threads.shared).1 =
    S.part (names thread) ((whole thread).run entry).1
  result : ((threads.program thread).run threads.shared).2 = ((whole thread).run entry).2

inductive Stage (threads : Threads Bool κ μ σ ρ) : Prop where
  | fresh (hfresh : forall thread, S.FreshAt names whole first threads thread)
      (hshape : S.shape threads.shared = S.shape first)
  | one (thread : Bool) (hbegun : S.BegunAt names whole first threads thread)
      (hfresh : S.FreshAt names whole first threads (!thread))
      (hshape : S.shape threads.shared = S.shape (behind whole first thread))
  | both (thread : Bool) (hbegun : S.BegunAt names whole first threads thread)
      (hother : S.BegunAt names whole (behind whole first thread) threads (!thread))

structure Apart (threads : Threads Bool κ μ σ ρ) : Prop where
  fits : S.fits threads.shared
  rest : forall other, (forall thread, other ≠ names thread) ->
    S.part other threads.shared = S.part other first
  stage : S.Stage names whole first threads

def MovesQuietly (threads next : Threads Bool κ μ σ ρ) : Prop :=
  S.place next.shared ≠ S.place threads.shared -> forall thread,
    next.program thread = threads.program thread ->
      forall reference, ¬ WillUse reference (threads.program thread)

structure OneByOne (threads : Threads Bool κ μ σ ρ) (thread : Bool) : Prop where
  result : threads.program thread = .done ((whole thread).run first).2
  other : threads.program (!thread) =
    .done ((whole (!thread)).run (behind whole first thread)).2
  part : forall name, S.part name threads.shared =
    S.part name ((whole (!thread)).run (behind whole first thread)).1

variable [DecidableEq κ]

/-- Two threads, as long as the place moves only so. -/
def quietSystem : Transition (Threads Bool κ μ σ ρ) :=
  (lockSystem whole first).restrict S.MovesQuietly

def places (threads : Threads Bool κ μ σ ρ) : List Bool -> List β
  | [] => []
  | thread :: schedule =>
      match threads.advance thread with
      | none => []
      | some next => S.place next.shared :: places next schedule

variable {S} {whole first}

theorem quiet_reachable_of_advances {schedule : List Bool} :
    forall {threads last : Threads Bool κ μ σ ρ},
      (S.quietSystem whole first).Reachable threads ->
        threads.advances schedule = some last ->
          (forall place, place ∈ S.places threads schedule ->
            place = S.place threads.shared) ->
            (S.quietSystem whole first).Reachable last := by
  induction schedule with
  | nil =>
      intro threads last hreach hrun _
      cases hrun
      exact hreach
  | cons thread schedule ih =>
      intro threads last hreach hrun hplaces
      rcases Option.bind_eq_some_iff.mp hrun with ⟨next, hnext, hrest⟩
      simp only [places, hnext, List.forall_mem_cons] at hplaces
      refine ih (hreach.step ⟨⟨thread, step_of_advance hnext⟩, ?_⟩) hrest ?_
      · exact fun hmoved => absurd hplaces.1 hmoved
      · rw [hplaces.1]
        exact hplaces.2

end Threads

section Stages

variable {S} {names : Bool -> α} {whole : Bool -> LockProgram κ μ σ ρ}
  {first entry : σ} {threads next : Threads Bool κ μ σ ρ} {thread : Bool}

theorem BegunAt.other (h : S.BegunAt names whole entry threads (!thread))
    (hnames : names (!thread) ≠ names thread) (hfits : S.fits threads.shared)
    (htouch : S.Touches (names thread) threads.shared next.shared)
    (hsame : next.program (!thread) = threads.program (!thread))
    (hquiet : S.MovesQuietly threads next) :
    S.BegunAt names whole entry next (!thread) := by
  have hstay : S.place next.shared = S.place threads.shared ∨
      forall reference, ¬ WillUse reference (threads.program (!thread)) :=
    Classical.or_iff_not_imp_left.mpr fun hmoved => hquiet hmoved _ hsame
  rcases h.begun.other hfits htouch.fits (htouch.others _ hnames)
    (fun hplace => htouch.live hplace _) hstay with ⟨hbegun, hend⟩
  refine ⟨?_, ?_, ?_⟩
  · rw [hsame]
    exact hbegun
  · rw [hsame]
    exact hend.part.symm.trans h.part
  · rw [hsame]
    exact hend.result.symm.trans h.result

theorem FreshAt.other (h : S.FreshAt names whole first threads (!thread))
    (hnames : names (!thread) ≠ names thread)
    (htouch : S.Touches (names thread) threads.shared next.shared)
    (hsame : next.program (!thread) = threads.program (!thread)) :
    S.FreshAt names whole first next (!thread) := by
  refine ⟨?_, (htouch.others _ hnames).trans h.part, ?_⟩
  · rw [hsame]
    exact h.fresh
  · rw [hsame]
    exact h.run

theorem behind_outcome (hfirst : S.fits first)
    (hwhole : forall thread, S.Fresh (names thread) (whole thread)) (thread : Bool) :
    S.fits (behind whole first thread) ∧ forall other, other ≠ names thread ->
      S.part other (behind whole first thread) = S.part other first := by
  have halone := (hwhole thread).run hfirst hfirst rfl rfl
  exact ⟨halone.fits, halone.others⟩

theorem apart_start (hfirst : S.fits first)
    (hwhole : forall thread, S.Fresh (names thread) (whole thread)) :
    S.Apart names whole first (startThreads whole first) :=
  { fits := hfirst
    rest := fun _ _ => rfl
    stage := .fresh (fun thread => ⟨hwhole thread, rfl, fun _ _ => rfl⟩) rfl }

theorem Apart.live (h : S.Apart names whole first threads) {reference : μ}
    {update : σ -> σ} {more : σ -> LockProgram κ μ σ ρ}
    (hat : threads.program thread = .act (some reference) update more) :
    S.live (names thread) reference threads.shared := by
  have hfresh : ¬ S.FreshAt names whole first threads thread := by
    intro hfresh
    have hthere := hfresh.fresh
    rw [hat] at hthere
    cases hthere
  have hbegun : forall {entry : σ}, S.BegunAt names whole entry threads thread ->
      S.live (names thread) reference threads.shared := by
    intro entry hbegun
    have hthere := hbegun.begun
    rw [hat] at hthere
    cases hthere with
    | works hknown hlive halike =>
        cases halike with
        | use hstep hnext => exact (hlive _ _ rfl).1
    | ends hleft hright => cases hleft
  cases h.stage with
  | fresh hall hshape => exact (hfresh (hall thread)).elim
  | one ahead hfirst hsecond hshape =>
      rcases Bool.eq_or_eq_not thread ahead with rfl | rfl
      · exact hbegun hfirst
      · exact (hfresh hsecond).elim
  | both ahead hfirst hsecond =>
      rcases Bool.eq_or_eq_not thread ahead with rfl | rfl
      · exact hbegun hfirst
      · exact hbegun hsecond

theorem FreshAt.begunAt (h : S.FreshAt names whole first threads thread)
    (hreturned : (threads.program thread).Returned)
    (hpart : S.part (names thread) entry = S.part (names thread) first) :
    S.BegunAt names whole entry threads thread := by
  rcases hreturned.eq_done with ⟨result, hprogram⟩
  have hrun := h.run entry hpart
  rw [hprogram] at hrun
  refine ⟨?_, ?_, ?_⟩
  · rw [hprogram]
    exact .ends .done .done
  · rw [hprogram, ← hrun]
    exact h.part.trans hpart.symm
  · rw [hprogram, ← hrun]
    rfl

theorem BegunAt.returned (h : S.BegunAt names whole entry threads thread)
    (hreturned : (threads.program thread).Returned) :
    threads.program thread = .done ((whole thread).run entry).2 ∧
      S.part (names thread) threads.shared =
        S.part (names thread) ((whole thread).run entry).1 := by
  rcases hreturned.eq_done with ⟨result, hprogram⟩
  have hpart := h.part
  have hresult := h.result
  rw [hprogram] at hpart hresult ⊢
  exact ⟨congrArg LockProgram.done hresult, hpart⟩

theorem Apart.returned (hfirst : S.fits first)
    (hwhole : forall thread, S.Fresh (names thread) (whole thread))
    (hnames : forall thread, names (!thread) ≠ names thread)
    (h : S.Apart names whole first threads)
    (hreturned : forall thread, (threads.program thread).Returned) :
    exists thread, S.OneByOne whole first threads thread := by
  have hboth : exists thread, S.BegunAt names whole first threads thread ∧
      S.BegunAt names whole (behind whole first thread) threads (!thread) := by
    have hsecond : forall thread, S.FreshAt names whole first threads (!thread) ->
        S.BegunAt names whole (behind whole first thread) threads (!thread) :=
      fun thread hfresh => hfresh.begunAt (hreturned (!thread))
        ((behind_outcome hfirst hwhole thread).2 _ (hnames thread))
    cases h.stage with
    | fresh hfresh hshape =>
        exact ⟨false, (hfresh false).begunAt (hreturned false) rfl,
          hsecond false (hfresh true)⟩
    | one thread hbegun hfresh hshape => exact ⟨thread, hbegun, hsecond thread hfresh⟩
    | both thread hbegun hother => exact ⟨thread, hbegun, hother⟩
  rcases hboth with ⟨thread, hbegun, hother⟩
  rcases hbegun.returned (hreturned thread) with ⟨hresult, hpart⟩
  rcases hother.returned (hreturned (!thread)) with ⟨hlast, hback⟩
  rcases behind_outcome hfirst hwhole thread with ⟨hfits, hothers⟩
  have halone := (hwhole (!thread)).run hfits hfits rfl rfl
  refine ⟨thread, hresult, hlast, fun name => ?_⟩
  by_cases hname : name = names (!thread)
  · rw [hname]
    exact hback
  · rw [halone.others name hname]
    by_cases hmine : name = names thread
    · rw [hmine]
      exact hpart
    · rw [hothers name hmine]
      refine h.rest name fun found => ?_
      rcases Bool.eq_or_eq_not found thread with rfl | rfl
      · exact hmine
      · exact hname

end Stages

section Steps

variable [DecidableEq κ] {S} {names : Bool -> α} {whole : Bool -> LockProgram κ μ σ ρ}
  {first entry : σ} {threads next : Threads Bool κ μ σ ρ} {thread : Bool}

theorem moves_of_step (h : ThreadStep threads thread next) :
    Moves (threads.program thread) threads.shared (next.program thread) next.shared ∧
      next.program (!thread) = threads.program (!thread) := by
  have hne : (!thread) ≠ thread := (Bool.not_eq_self thread).mp
  cases h with
  | lock hat _ =>
      rw [hat]
      exact ⟨by simpa [Threads.setProgram] using Moves.lock, setProgram_other threads _ hne⟩
  | unlock hat _ =>
      rw [hat]
      exact ⟨by simpa [Threads.setProgram] using Moves.unlock,
        setProgram_other threads _ hne⟩
  | act hat =>
      rw [hat]
      exact ⟨by simpa using Moves.act, setProgram_other threads _ hne⟩
  | choose refused hat =>
      rw [hat]
      exact ⟨by simpa [Threads.setProgram] using Moves.choose refused,
        setProgram_other threads _ hne⟩

theorem BegunAt.own (h : S.BegunAt names whole entry threads thread)
    (hfits : S.fits threads.shared) (hstep : ThreadStep threads thread next) :
    S.Touches (names thread) threads.shared next.shared ∧
      S.shape next.shared = S.shape threads.shared ∧
      S.BegunAt names whole entry next thread := by
  rcases h.begun.step hfits (moves_of_step hstep).1 with ⟨htouch, hshape, hbegun, hrun⟩
  refine ⟨htouch, hshape, hbegun, ?_, ?_⟩
  · rw [hrun]
    exact h.part
  · rw [hrun]
    exact h.result

theorem FreshAt.own (h : S.FreshAt names whole first threads thread)
    (hfits : S.fits threads.shared) (hstep : ThreadStep threads thread next) :
    next.shared = threads.shared ∧ S.FreshAt names whole first next thread ∨
      S.Touches (names thread) threads.shared next.shared ∧
        forall entry, S.fits entry ->
          S.part (names thread) entry = S.part (names thread) first ->
            S.shape threads.shared = S.shape entry ->
              S.BegunAt names whole entry next thread ∧
                S.shape next.shared = S.shape (behind whole entry thread) := by
  rcases h.fresh.step hfits (moves_of_step hstep).1 with
    ⟨hshared, hfresh, hrun⟩ | ⟨htouch, hbegun, hrun⟩
  · refine Or.inl ⟨hshared, hfresh, ?_, fun s hpart => ?_⟩
    · rw [hshared]
      exact h.part
    · rw [hrun s (hpart.trans h.part.symm)]
      exact h.run s hpart
  · refine Or.inr ⟨htouch, fun entry hentry hpart hshape => ?_⟩
    have halone := h.fresh.run hfits hentry (h.part.trans hpart.symm) hshape
    rw [h.run entry hpart, ← hrun] at halone
    have hend := hbegun.run htouch.fits htouch.fits rfl
    exact ⟨⟨hbegun, halone.part, halone.result⟩, hend.left.shape.symm.trans halone.shape⟩

theorem Apart.step (hfirst : S.fits first)
    (hwhole : forall thread, S.Fresh (names thread) (whole thread))
    (hnames : forall thread, names (!thread) ≠ names thread)
    (h : S.Apart names whole first threads) (hstep : ThreadStep threads thread next)
    (hquiet : S.MovesQuietly threads next) : S.Apart names whole first next := by
  have hsame := (moves_of_step hstep).2
  have hrest : S.Touches (names thread) threads.shared next.shared ->
      S.Stage names whole first next -> S.Apart names whole first next := by
    intro htouch hstage
    refine ⟨htouch.fits, fun other hother => ?_, hstage⟩
    exact (htouch.others other (hother thread)).trans (h.rest other hother)
  have hstill : next.shared = threads.shared ->
      S.Touches (names thread) threads.shared next.shared := by
    intro hshared
    rw [hshared]
    exact .refl h.fits
  cases h.stage with
  | fresh hfresh hshape =>
      rcases (hfresh thread).own h.fits hstep with ⟨hshared, hlooked⟩ | ⟨htouch, hbegun⟩
      · have hother := (hfresh (!thread)).other (hnames thread) (hstill hshared) hsame
        refine hrest (hstill hshared) (.fresh (fun found => ?_) (by rw [hshared, hshape]))
        rcases Bool.eq_or_eq_not found thread with rfl | rfl
        · exact hlooked
        · exact hother
      · rcases hbegun first hfirst rfl hshape with ⟨hbegun, hmoved⟩
        exact hrest htouch (.one thread hbegun
          ((hfresh (!thread)).other (hnames thread) htouch hsame) hmoved)
  | one ahead hbegun hfresh hshape =>
      rcases Bool.eq_or_eq_not thread ahead with rfl | rfl
      · rcases hbegun.own h.fits hstep with ⟨htouch, hkept, hbegun⟩
        exact hrest htouch (.one thread hbegun (hfresh.other (hnames thread) htouch hsame)
          (hkept.trans hshape))
      · rw [← Bool.not_not ahead] at hbegun
        rcases hfresh.own h.fits hstep with ⟨hshared, hlooked⟩ | ⟨htouch, hsecond⟩
        · have hother := hbegun.other (hnames (!ahead)) h.fits (hstill hshared) hsame hquiet
          rw [Bool.not_not] at hother
          exact hrest (hstill hshared) (.one ahead hother hlooked (by rw [hshared, hshape]))
        · have hother := hbegun.other (hnames (!ahead)) h.fits htouch hsame hquiet
          rw [Bool.not_not] at hother
          rcases behind_outcome hfirst hwhole ahead with ⟨hfits, hothers⟩
          exact hrest htouch (.both ahead hother
            (hsecond _ hfits (hothers _ (hnames ahead)) hshape).1)
  | both ahead hbegun hsecond =>
      rcases Bool.eq_or_eq_not thread ahead with rfl | rfl
      · rcases hbegun.own h.fits hstep with ⟨htouch, _, hbegun⟩
        exact hrest htouch (.both thread hbegun
          (hsecond.other (hnames thread) h.fits htouch hsame hquiet))
      · rw [← Bool.not_not ahead] at hbegun
        rcases hsecond.own h.fits hstep with ⟨htouch, _, hsecond⟩
        have hother := hbegun.other (hnames (!ahead)) h.fits htouch hsame hquiet
        rw [Bool.not_not] at hother
        exact hrest htouch (.both ahead hother hsecond)

theorem apart_reachable (hfirst : S.fits first)
    (hwhole : forall thread, S.Fresh (names thread) (whole thread))
    (hnames : forall thread, names (!thread) ≠ names thread)
    (hreach : (S.quietSystem whole first).Reachable threads) :
    S.Apart names whole first threads := by
  have hkept : (S.quietSystem whole first).Kept (S.Apart names whole first) := by
    rintro s t h ⟨⟨thread, hstep⟩, hquiet⟩
    exact h.step hfirst hwhole hnames hstep hquiet
  apply hkept.reachable _ hreach
  rintro s rfl
  exact apart_start hfirst hwhole

end Steps

end Sharing

end Foundation
end SqlCsvServer
