import SqlCsvServer.Foundation.LockSystem

/-!
# Calls that work under one lock

Threads look up a lock in a directory that has a lock of its own, may add it there,
and do their work while they hold the lock they found.  If they all find the same one,
any run leaves what the calls leave one after another, in the order in which they
took it.
-/

namespace SqlCsvServer
namespace Foundation

/--
What the calls work on, the directory, the lock of the directory, and which lock the
directory names; some property of either part holds all the time.
-/
structure Guarding (κ σ π τ : Type) where
  outer : κ
  isGuard : κ -> Bool
  part : σ -> π
  rest : σ -> τ
  guard : τ -> κ -> Prop
  sound : τ -> Prop
  fits : π -> Prop
  outer_not_guard : isGuard outer = false
  guard_isGuard : forall {directory : τ} {key : κ}, guard directory key -> isGuard key = true
  guard_unique : forall {directory : τ} {key other : κ},
    guard directory key -> guard directory other -> key = other

def WorksOn {κ μ σ ρ : Type} (outer : κ) (isGuard : κ -> Bool) (fits : σ -> Prop) :
    LockProgram κ μ σ ρ -> Prop
  | .done _ => True
  | .lock other next => other ≠ outer ∧ isGuard other = false ∧ WorksOn outer isGuard fits next
  | .unlock other next =>
      other ≠ outer ∧ isGuard other = false ∧ WorksOn outer isGuard fits next
  | .act _ update next =>
      forall s, fits s -> fits (update s) ∧ WorksOn outer isGuard fits (next s)
  | .choose _ => False

theorem WorksOn.andThen {κ μ σ α ρ : Type} {outer : κ} {isGuard : κ -> Bool}
    {fits : σ -> Prop} {first : LockProgram κ μ σ α} {next : α -> LockProgram κ μ σ ρ}
    (hfirst : WorksOn outer isGuard fits first)
    (hnext : forall result, WorksOn outer isGuard fits (next result)) :
    WorksOn outer isGuard fits (first.andThen next) := by
  induction first with
  | done result => exact hnext result
  | lock taken more ih => exact ⟨hfirst.1, hfirst.2.1, ih hfirst.2.2⟩
  | unlock given more ih => exact ⟨hfirst.1, hfirst.2.1, ih hfirst.2.2⟩
  | act reference update more ih =>
      intro s hfits
      rcases hfirst s hfits with ⟨hkept, hmore⟩
      exact ⟨hkept, ih s hmore⟩
  | choose more ih => exact hfirst.elim

namespace Guarding

variable {ι κ μ σ ρ π τ : Type} (G : Guarding κ σ π τ)

def Extends (directory larger : τ) : Prop :=
  forall key, G.guard directory key -> G.guard larger key

theorem Extends.refl (directory : τ) : G.Extends directory directory :=
  fun _ hguard => hguard

variable {G}

theorem Extends.trans {first second third : τ} (h : G.Extends first second)
    (hmore : G.Extends second third) : G.Extends first third :=
  fun key hguard => hmore key (h key hguard)

variable (G)

/-!
## Programs
-/

def Inside [DecidableEq κ] (key : κ) : LockProgram κ μ σ ρ -> Prop
  | .done _ => False
  | .lock other next => other ≠ G.outer ∧ G.isGuard other = false ∧ Inside key next
  | .unlock other next =>
      if other = key then exists result, next = .done result
      else other ≠ G.outer ∧ G.isGuard other = false ∧ Inside key next
  | .act _ update next =>
      forall s, G.fits (G.part s) ->
        (G.fits (G.part (update s)) ∧ G.rest (update s) = G.rest s ∧ Inside key (next s)) ∧
          forall other, G.part other = G.part s ->
            G.part (update other) = G.part (update s) ∧ next other = next s
  | .choose _ => False

def Performs [DecidableEq κ] (call : π -> π × ρ) (key : κ)
    (program : LockProgram κ μ σ ρ) : Prop :=
  G.Inside key program ∧
    forall s, G.fits (G.part s) ->
      G.part (program.run s).1 = (call (G.part s)).1 ∧
        (program.run s).2 = (call (G.part s)).2

def Works : LockProgram κ μ σ ρ -> Prop
  | .done _ => True
  | .lock other next => other ≠ G.outer ∧ G.isGuard other = false ∧ Works next
  | .unlock other next => other ≠ G.outer ∧ G.isGuard other = false ∧ Works next
  | .act _ update next =>
      forall s, G.fits (G.part s) ->
        (G.fits (G.part (update s)) ∧ G.rest (update s) = G.rest s ∧ Works (next s)) ∧
          forall other, G.part other = G.part s ->
            G.part (update other) = G.part (update s) ∧ next other = next s
  | .choose _ => False

/--
A program on its way to the lock; it may hold the lock of the directory, and then knows
the directory.  Where it gives up, its result is a refusal.
-/
def Seeks [DecidableEq κ] (call : π -> π × ρ) (refused : ρ -> Prop) :
    Bool -> τ -> LockProgram κ μ σ ρ -> Prop
  | holds, _, .done result => holds = false ∧ refused result
  | holds, directory, .lock key next =>
      holds = false ∧
        (key = G.outer ∧
            (forall larger, G.Extends directory larger -> G.sound larger ->
              Seeks call refused true larger next) ∨
          G.guard directory key ∧ G.Performs call key next)
  | holds, directory, .unlock key next =>
      holds = true ∧ key = G.outer ∧ Seeks call refused false directory next
  | holds, directory, .act _ update next =>
      forall s, G.fits (G.part s) -> G.sound (G.rest s) ->
        G.Extends directory (G.rest s) -> (holds = true -> G.rest s = directory) ->
          G.part (update s) = G.part s ∧ (holds = false -> G.rest (update s) = G.rest s) ∧
            G.sound (G.rest (update s)) ∧ G.Extends (G.rest s) (G.rest (update s)) ∧
            Seeks call refused holds (G.rest (update s)) (next s)
  | holds, directory, .choose next =>
      forall answer, Seeks call refused holds directory (next answer)

section Programs

variable [DecidableEq κ] {G} {key : κ} {program : LockProgram κ μ σ ρ}

theorem Inside.run_congr (h : G.Inside key program) :
    forall {s other : σ}, G.fits (G.part s) -> G.part other = G.part s ->
      G.part (program.run other).1 = G.part (program.run s).1 ∧
        (program.run other).2 = (program.run s).2 := by
  induction program with
  | done result => exact h.elim
  | lock taken next ih => exact fun hfits hpart => ih h.2.2 hfits hpart
  | unlock given next ih =>
      intro s other hfits hpart
      rw [Inside] at h
      split at h
      · rcases h with ⟨result, rfl⟩
        exact ⟨hpart, rfl⟩
      · exact ih h.2.2 hfits hpart
  | act reference update next ih =>
      intro s other hfits hpart
      rcases h s hfits with ⟨⟨hkept, _, hnext⟩, hsame⟩
      rcases hsame other hpart with ⟨hupdate, hprogram⟩
      rw [LockProgram.run_act, LockProgram.run_act, hprogram]
      exact ih s hnext hkept hupdate
  | choose next ih => exact h.elim

theorem Inside.run_fits (h : G.Inside key program) :
    forall {s : σ}, G.fits (G.part s) -> G.fits (G.part (program.run s).1) := by
  induction program with
  | done result => exact h.elim
  | lock taken next ih => exact fun hfits => ih h.2.2 hfits
  | unlock given next ih =>
      intro s hfits
      rw [Inside] at h
      split at h
      · rcases h with ⟨result, rfl⟩
        exact hfits
      · exact ih h.2.2 hfits
  | act reference update next ih =>
      intro s hfits
      rcases (h s hfits).1 with ⟨hkept, _, hnext⟩
      exact ih s hnext hkept
  | choose next ih => exact h.elim

omit [DecidableEq κ] in
theorem Works.andThen {α : Type} {first : LockProgram κ μ σ α}
    {next : α -> LockProgram κ μ σ ρ} (hfirst : G.Works first)
    (hnext : forall result, G.Works (next result)) : G.Works (first.andThen next) := by
  induction first with
  | done result => exact hnext result
  | lock taken more ih => exact ⟨hfirst.1, hfirst.2.1, ih hfirst.2.2⟩
  | unlock given more ih => exact ⟨hfirst.1, hfirst.2.1, ih hfirst.2.2⟩
  | act reference update more ih =>
      intro s hfits
      rcases hfirst s hfits with ⟨⟨hkept, hrest, hmore⟩, hsame⟩
      refine ⟨⟨hkept, hrest, ih s hmore⟩, fun other hpart => ?_⟩
      rcases hsame other hpart with ⟨hupdate, hprogram⟩
      exact ⟨hupdate, congrArg (fun program => program.andThen next) hprogram⟩
  | choose more ih => exact hfirst.elim

theorem Works.andThen_inside {α : Type} {first : LockProgram κ μ σ α}
    {next : α -> LockProgram κ μ σ ρ} (hkey : G.isGuard key = true)
    (hfirst : G.Works first) (hnext : forall result, G.Inside key (next result)) :
    G.Inside key (first.andThen next) := by
  induction first with
  | done result => exact hnext result
  | lock taken more ih => exact ⟨hfirst.1, hfirst.2.1, ih hfirst.2.2⟩
  | unlock given more ih =>
      have hne : given ≠ key := by
        rintro rfl
        exact Bool.noConfusion (hkey.symm.trans hfirst.2.1)
      change if given = key then _ else _
      rw [if_neg hne]
      exact ⟨hfirst.1, hfirst.2.1, ih hfirst.2.2⟩
  | act reference update more ih =>
      intro s hfits
      rcases hfirst s hfits with ⟨⟨hkept, hrest, hmore⟩, hsame⟩
      refine ⟨⟨hkept, hrest, ih s hmore⟩, fun other hpart => ?_⟩
      rcases hsame other hpart with ⟨hupdate, hprogram⟩
      exact ⟨hupdate, congrArg (fun program => program.andThen next) hprogram⟩
  | choose more ih => exact hfirst.elim

omit [DecidableEq κ] in
theorem works_lift {ω : Type} {get : σ -> ω} {set : σ -> ω -> σ}
    (hget : forall s other, G.part other = G.part s -> get other = get s)
    (hset : forall s other more, G.part other = G.part s ->
      G.part (set other more) = G.part (set s more))
    (hrest : forall s more, G.rest (set s more) = G.rest s) {fits : ω -> Prop}
    (hfits : forall s, G.fits (G.part s) -> fits (get s))
    (hback : forall s more, G.fits (G.part s) -> fits more ->
      G.fits (G.part (set s more)))
    {inner : LockProgram κ μ ω ρ} (h : WorksOn G.outer G.isGuard fits inner) :
    G.Works (inner.lift get set) := by
  induction inner with
  | done result => trivial
  | lock taken next ih => exact ⟨h.1, h.2.1, ih h.2.2⟩
  | unlock given next ih => exact ⟨h.1, h.2.1, ih h.2.2⟩
  | act reference update next ih =>
      intro s hs
      rcases h (get s) (hfits s hs) with ⟨hkept, hmore⟩
      refine ⟨⟨hback s _ hs hkept, hrest s _, ih _ hmore⟩, fun other hpart => ?_⟩
      have hsame := hget s other hpart
      simp only [hsame]
      exact ⟨hset s other _ hpart, trivial⟩
  | choose next ih => exact h.elim

theorem Seeks.extend {call : π -> π × ρ} {refused : ρ -> Prop} :
    forall {directory larger : τ}, G.Seeks call refused false directory program ->
      G.Extends directory larger -> G.Seeks call refused false larger program := by
  induction program with
  | done result => exact fun h _ => h
  | lock taken next ih =>
      intro directory larger h hlarger
      refine ⟨rfl, ?_⟩
      rcases h.2 with ⟨houter, hmore⟩ | ⟨hguard, hperforms⟩
      · exact Or.inl ⟨houter, fun other hother => hmore other (hlarger.trans hother)⟩
      · exact Or.inr ⟨hlarger _ hguard, hperforms⟩
  | unlock given next ih =>
      intro directory larger h _
      cases h.1
  | act reference update next ih =>
      intro directory larger h hlarger s hfits hsound hextends hknown
      exact h s hfits hsound (hlarger.trans hextends) (fun hholds => by cases hholds)
  | choose next ih => exact fun h hlarger answer => ih answer (h answer) hlarger

end Programs

/-!
## One after another
-/

def serially (call : ι -> π -> π × ρ) (first : π) (order : List ι) : π :=
  order.foldl (fun part thread => (call thread part).1) first

def Finished (call : ι -> π -> π × ρ) (program : ι -> LockProgram κ μ σ ρ) :
    π -> List ι -> Prop
  | _, [] => True
  | part, thread :: order =>
      program thread = .done (call thread part).2 ∧
        Finished call program (call thread part).1 order

section Finished

variable {call : ι -> π -> π × ρ} {program : ι -> LockProgram κ μ σ ρ}

theorem serially_append (first : π) (order : List ι) (thread : ι) :
    serially call first (order ++ [thread]) =
      (call thread (serially call first order)).1 := by
  rw [serially, List.foldl_append]
  rfl

theorem finished_append {order : List ι} {thread : ι} :
    forall {first : π}, Finished call program first (order ++ [thread]) <->
      Finished call program first order ∧
        program thread = .done (call thread (serially call first order)).2 := by
  induction order with
  | nil =>
      intro first
      rw [List.nil_append, Finished, Finished, serially, List.foldl_nil]
      exact and_comm
  | cons other order ih =>
      intro first
      rw [List.cons_append, Finished, Finished, ih, and_assoc]
      rfl

theorem Finished.result {front back : List ι} {thread : ι} :
    forall {first : π}, Finished call program first (front ++ thread :: back) ->
      program thread = .done (call thread (serially call first front)).2 := by
  induction front with
  | nil => exact fun h => h.1
  | cons other front ih => exact fun h => ih h.2

theorem Finished.frame {other : ι -> LockProgram κ μ σ ρ} {order : List ι}
    (hsame : forall thread, thread ∈ order -> other thread = program thread) :
    forall {first : π}, Finished call program first order ->
      Finished call other first order := by
  induction order with
  | nil => exact fun _ => trivial
  | cons thread order ih =>
      intro first h
      exact ⟨(hsame thread List.mem_cons_self).trans h.1,
        ih (fun more hmore => hsame more (List.mem_cons_of_mem _ hmore)) h.2⟩

theorem Finished.done {order : List ι} {thread : ι} (hthread : thread ∈ order) :
    forall {first : π}, Finished call program first order ->
      exists result, program thread = .done result := by
  induction order with
  | nil => cases hthread
  | cons other order ih =>
      intro first h
      rcases List.mem_cons.mp hthread with rfl | hthread
      · exact ⟨_, h.1⟩
      · exact ih hthread h.2

end Finished

/-!
## All threads together
-/

def takenOrder (taken : κ -> Bool) : List (ι × LockEvent κ) -> List ι
  | [] => []
  | (thread, .acquired key) :: log =>
      if taken key then thread :: takenOrder taken log else takenOrder taken log
  | (_, .released _) :: log => takenOrder taken log

theorem takenOrder_append (taken : κ -> Bool) (log more : List (ι × LockEvent κ)) :
    takenOrder taken (log ++ more) = takenOrder taken log ++ takenOrder taken more := by
  induction log with
  | nil => rfl
  | cons entry log ih =>
      rcases entry with ⟨thread, key | key⟩
      · cases htaken : taken key with
        | true => simp only [List.cons_append, takenOrder, htaken, if_true, ih]
        | false => simpa [takenOrder, htaken] using ih
      · exact ih

theorem takenOrder_other {taken : κ -> Bool} {key : κ} (h : taken key = false)
    (log : List (ι × LockEvent κ)) (thread : ι) :
    takenOrder taken (log ++ [(thread, .acquired key)]) = takenOrder taken log := by
  rw [takenOrder_append]
  simp [takenOrder, h]

theorem takenOrder_released (taken : κ -> Bool) (log : List (ι × LockEvent κ))
    (thread : ι) (key : κ) :
    takenOrder taken (log ++ [(thread, .released key)]) = takenOrder taken log := by
  rw [takenOrder_append]
  simp [takenOrder]

section Threads

variable [DecidableEq ι] [DecidableEq κ]

structure Idle (call : ι -> π -> π × ρ) (first : π)
    (threads : Threads ι κ μ σ ρ) : Prop where
  free : forall key, G.isGuard key = true -> threads.owner key = none
  part : G.part threads.shared =
    serially call first (takenOrder G.isGuard threads.log)
  finished :
    Finished call threads.program first (takenOrder G.isGuard threads.log)

structure Busy (call : ι -> π -> π × ρ) (first : π)
    (threads : Threads ι κ μ σ ρ) (front : List ι) (thread : ι) (key : κ) :
    Prop where
  order : takenOrder G.isGuard threads.log = front ++ [thread]
  guard : G.guard (G.rest threads.shared) key
  owner : threads.owner key = some thread
  free : forall other, G.isGuard other = true -> other ≠ key ->
    threads.owner other = none
  inside : G.Inside key (threads.program thread)
  part : G.part ((threads.program thread).run threads.shared).1 =
    (call thread (serially call first front)).1
  result : ((threads.program thread).run threads.shared).2 =
    (call thread (serially call first front)).2
  finished : Finished call threads.program first front

def holdsOuter (threads : Threads ι κ μ σ ρ) (thread : ι) : Bool :=
  decide (threads.owner G.outer = some thread)

/-- The threads that have not taken such a lock are on their way to it. -/
structure Waiting (call : ι -> π -> π × ρ) (refused : ι -> ρ -> Prop)
    (threads : Threads ι κ μ σ ρ) : Prop where
  sound : G.sound (G.rest threads.shared)
  fits : G.fits (G.part threads.shared)
  nodup : (takenOrder G.isGuard threads.log).Nodup
  seeks : forall thread, thread ∉ takenOrder G.isGuard threads.log ->
    G.Seeks (call thread) (refused thread) (G.holdsOuter threads thread)
      (G.rest threads.shared) (threads.program thread)
  outer : forall thread, thread ∈ takenOrder G.isGuard threads.log ->
    threads.owner G.outer ≠ some thread

structure Guarded (call : ι -> π -> π × ρ) (refused : ι -> ρ -> Prop) (first : π)
    (threads : Threads ι κ μ σ ρ) : Prop where
  waiting : G.Waiting call refused threads
  phase : G.Idle call first threads ∨
    exists front thread key, G.Busy call first threads front thread key

structure Apart (threads next : Threads ι κ μ σ ρ) (thread : ι) : Prop where
  program : forall other, other ≠ thread ->
    next.program other = threads.program other
  outer : forall other, other ≠ thread ->
    (next.owner G.outer = some other <-> threads.owner G.outer = some other)
  rest : forall other, other ≠ thread -> threads.owner G.outer = some other ->
    G.rest next.shared = G.rest threads.shared
  extends_rest : G.Extends (G.rest threads.shared) (G.rest next.shared)

section Steps

variable {G} {call : ι -> π -> π × ρ} {refused : ι -> ρ -> Prop} {first : π}
  {threads next : Threads ι κ μ σ ρ} {thread : ι}

theorem Waiting.others (h : G.Waiting call refused threads)
    (hapart : G.Apart threads next thread) {other : ι} (hne : other ≠ thread)
    (hout : other ∉ takenOrder G.isGuard threads.log) :
    G.Seeks (call other) (refused other) (G.holdsOuter next other)
      (G.rest next.shared) (next.program other) := by
  have hseeks := h.seeks other hout
  have hholds : G.holdsOuter next other = G.holdsOuter threads other :=
    decide_eq_decide.mpr (hapart.outer other hne)
  rw [hapart.program other hne, hholds]
  cases howner : G.holdsOuter threads other with
  | true =>
      rw [hapart.rest other hne (of_decide_eq_true howner), ← howner]
      exact hseeks
  | false =>
      rw [howner] at hseeks
      exact hseeks.extend hapart.extends_rest

theorem Waiting.step (h : G.Waiting call refused threads)
    (hapart : G.Apart threads next thread) (hsound : G.sound (G.rest next.shared))
    (hfits : G.fits (G.part next.shared))
    (hnodup : (takenOrder G.isGuard next.log).Nodup)
    (horder : forall other, other ≠ thread ->
      (other ∈ takenOrder G.isGuard next.log <->
        other ∈ takenOrder G.isGuard threads.log))
    (hself : thread ∉ takenOrder G.isGuard next.log ->
      G.Seeks (call thread) (refused thread) (G.holdsOuter next thread)
        (G.rest next.shared) (next.program thread))
    (houter : thread ∈ takenOrder G.isGuard next.log ->
      next.owner G.outer ≠ some thread) :
    G.Waiting call refused next where
  sound := hsound
  fits := hfits
  nodup := hnodup
  seeks := by
    intro other hout
    by_cases hne : other = thread
    · subst hne
      exact hself hout
    · exact h.others hapart hne (fun hmem => hout ((horder other hne).mpr hmem))
  outer := by
    intro other hmem
    by_cases hne : other = thread
    · subst hne
      exact houter hmem
    · intro howner
      exact h.outer other ((horder other hne).mp hmem)
        ((hapart.outer other hne).mp howner)

theorem Guarded.seek (h : G.Guarded call refused first threads)
    (hout : thread ∉ takenOrder G.isGuard threads.log)
    (horder : takenOrder G.isGuard next.log = takenOrder G.isGuard threads.log)
    (hapart : G.Apart threads next thread)
    (hguards : forall key, G.isGuard key = true ->
      next.owner key = threads.owner key)
    (hpart : G.part next.shared = G.part threads.shared)
    (hsound : G.sound (G.rest next.shared))
    (hself : G.Seeks (call thread) (refused thread) (G.holdsOuter next thread)
      (G.rest next.shared) (next.program thread)) :
    G.Guarded call refused first next where
  waiting := by
    refine h.waiting.step hapart hsound ?_ ?_ ?_ (fun _ => hself) ?_
    · rw [hpart]
      exact h.waiting.fits
    · rw [horder]
      exact h.waiting.nodup
    · intro other _
      rw [horder]
    · intro hmem
      rw [horder] at hmem
      exact absurd hmem hout
  phase := by
    have hframe : forall other, other ∈ takenOrder G.isGuard threads.log ->
        next.program other = threads.program other :=
      fun other hmem => hapart.program other (ne_of_mem_of_not_mem hmem hout)
    rcases h.phase with hidle | ⟨front, worker, key, hbusy⟩
    · refine Or.inl ⟨?_, ?_, ?_⟩
      · intro key hguard
        rw [hguards key hguard]
        exact hidle.free key hguard
      · rw [hpart, horder]
        exact hidle.part
      · rw [horder]
        exact hidle.finished.frame hframe
    · have hworker : worker ∈ takenOrder G.isGuard threads.log := by
        rw [hbusy.order]
        exact List.mem_append_right _ List.mem_cons_self
      have hrun := hbusy.inside.run_congr h.waiting.fits hpart
      refine Or.inr ⟨front, worker, key, ?_⟩
      constructor
      · rw [horder]
        exact hbusy.order
      · exact hapart.extends_rest key hbusy.guard
      · rw [hguards key (G.guard_isGuard hbusy.guard)]
        exact hbusy.owner
      · intro other hguard hne
        rw [hguards other hguard]
        exact hbusy.free other hguard hne
      · rw [hframe worker hworker]
        exact hbusy.inside
      · rw [hframe worker hworker]
        exact hrun.1.trans hbusy.part
      · rw [hframe worker hworker]
        exact hrun.2.trans hbusy.result
      · apply hbusy.finished.frame
        intro other hmem
        apply hframe
        rw [hbusy.order]
        exact List.mem_append_left _ hmem

theorem Guarded.take (h : G.Guarded call refused first threads)
    (hout : thread ∉ takenOrder G.isGuard threads.log) {key : κ}
    {program : LockProgram κ μ σ ρ} (hfree : threads.owner key = none)
    (hguard : G.guard (G.rest threads.shared) key)
    (hperforms : G.Performs (call thread) key program)
    (hholds : G.holdsOuter threads thread = false) :
    G.Guarded call refused first
      { threads.setProgram thread program with
        owner := Function.update threads.owner key (some thread)
        log := threads.log ++ [(thread, .acquired key)] } := by
  have hisGuard := G.guard_isGuard hguard
  have hne : G.outer ≠ key := by
    rintro rfl
    rw [G.outer_not_guard] at hisGuard
    cases hisGuard
  have horder : takenOrder G.isGuard (threads.log ++ [(thread, .acquired key)]) =
      takenOrder G.isGuard threads.log ++ [thread] := by
    rw [takenOrder_append]
    simp only [takenOrder, hisGuard, if_true]
  have hframe : forall other, other ≠ thread ->
      (threads.setProgram thread program).program other = threads.program other :=
    fun other => setProgram_other threads program
  have hidle : G.Idle call first threads := by
    rcases h.phase with hidle | ⟨front, worker, other, hbusy⟩
    · exact hidle
    · rw [G.guard_unique hguard hbusy.guard, hbusy.owner] at hfree
      cases hfree
  constructor
  · refine h.waiting.step ⟨hframe, ?_, fun _ _ _ => rfl, Extends.refl G _⟩
      h.waiting.sound h.waiting.fits ?_ ?_ ?_ ?_
    · intro other _
      simp only [Function.update_of_ne hne]
    · rw [horder]
      exact List.nodup_append.mpr ⟨h.waiting.nodup, List.pairwise_singleton _ _,
        fun other hother self hself =>
          List.mem_singleton.mp hself ▸ ne_of_mem_of_not_mem hother hout⟩
    · intro other hother
      rw [horder, List.mem_append, List.mem_singleton, or_iff_left hother]
    · intro hnot
      rw [horder] at hnot
      exact absurd (List.mem_append_right _ List.mem_cons_self) hnot
    · intro _
      simp only [Function.update_of_ne hne]
      exact of_decide_eq_false hholds
  · have hrun := hperforms.2 threads.shared h.waiting.fits
    refine Or.inr ⟨_, thread, key, horder, hguard, Function.update_self .., ?_, ?_, ?_, ?_, ?_⟩
    · intro other hother hdistinct
      simp only [Function.update_of_ne hdistinct]
      exact hidle.free other hother
    · rw [setProgram_self]
      exact hperforms.1
    · rw [setProgram_self, ← hidle.part]
      exact hrun.1
    · rw [setProgram_self, ← hidle.part]
      exact hrun.2
    · exact hidle.finished.frame fun other hother =>
        hframe other (ne_of_mem_of_not_mem hother hout)

theorem Guarded.step_outside (h : G.Guarded call refused first threads)
    (hout : thread ∉ takenOrder G.isGuard threads.log)
    (hstep : ThreadStep threads thread next) : G.Guarded call refused first next := by
  have hseeks := h.waiting.seeks thread hout
  cases hstep with
  | @lock key program hat hfree =>
      rw [hat] at hseeks
      rcases hseeks with ⟨hholds, ⟨rfl, hmore⟩ | ⟨hguard, hperforms⟩⟩
      · refine h.seek hout (takenOrder_other G.outer_not_guard _ _) ⟨?_, ?_, ?_, ?_⟩ ?_ rfl
          h.waiting.sound ?_
        · exact fun other => setProgram_other threads program
        · intro other hne
          simp only [Function.update_self, hfree]
          constructor
          · exact fun hsome => absurd (Option.some.inj hsome).symm hne
          · exact fun hnone => by cases hnone
        · exact fun _ _ _ => rfl
        · exact Extends.refl G _
        · intro key hguard
          have hne : key ≠ G.outer := by
            rintro rfl
            rw [G.outer_not_guard] at hguard
            cases hguard
          simp only [Function.update_of_ne hne]
        · have hself := hmore _ (Extends.refl G _) h.waiting.sound
          have howns : G.holdsOuter
              { threads.setProgram thread program with
                owner := Function.update threads.owner G.outer (some thread)
                log := threads.log ++ [(thread, .acquired G.outer)] } thread = true := by
            simp [holdsOuter]
          rw [howns]
          simp only [setProgram_self]
          exact hself
      · exact h.take hout hfree hguard hperforms hholds
  | @unlock key program hat howner =>
      rw [hat] at hseeks
      rcases hseeks with ⟨hholds, rfl, hmore⟩
      refine h.seek hout (takenOrder_released _ _ _ _) ⟨?_, ?_, ?_, ?_⟩ ?_ rfl
        h.waiting.sound ?_
      · exact fun other => setProgram_other threads program
      · intro other hne
        simp only [Function.update_self, howner]
        constructor
        · exact fun hnone => by cases hnone
        · exact fun hsome => absurd (Option.some.inj hsome).symm hne
      · exact fun _ _ _ => rfl
      · exact Extends.refl G _
      · intro key hguard
        have hne : key ≠ G.outer := by
          rintro rfl
          rw [G.outer_not_guard] at hguard
          cases hguard
        simp only [Function.update_of_ne hne]
      · have hfree : G.holdsOuter
            { threads.setProgram thread program with
              owner := Function.update threads.owner G.outer none
              log := threads.log ++ [(thread, .released G.outer)] } thread = false := by
          simp [holdsOuter]
        rw [hfree]
        simp only [setProgram_self]
        exact hmore
  | @act reference update more hat =>
      rw [hat] at hseeks
      rcases hseeks threads.shared h.waiting.fits h.waiting.sound (Extends.refl G _)
        (fun _ => rfl) with ⟨hpart, hrest, hsound, hextends, hmore⟩
      refine h.seek hout rfl ⟨?_, fun _ _ => Iff.rfl, ?_, hextends⟩ (fun _ _ => rfl) hpart
        hsound ?_
      · exact fun other => setProgram_other threads _
      · intro other hne howner
        apply hrest
        apply decide_eq_false
        rw [howner]
        exact fun hsome => hne (Option.some.inj hsome)
      · simp only [setProgram_self]
        exact hmore
  | @choose more answer hat =>
      rw [hat] at hseeks
      refine h.seek hout rfl ⟨?_, fun _ _ => Iff.rfl, fun _ _ _ => rfl, Extends.refl G _⟩
        (fun _ _ => rfl) rfl h.waiting.sound ?_
      · exact fun other => setProgram_other threads _
      · rw [setProgram_self]
        exact hseeks answer

omit [DecidableEq ι] in
theorem Busy.mem {front : List ι} {key : κ} (h : G.Busy call first threads front thread key) :
    thread ∈ takenOrder G.isGuard threads.log := by
  rw [h.order]
  exact List.mem_append_right _ List.mem_cons_self

theorem Waiting.work (h : G.Waiting call refused threads)
    (hmem : thread ∈ takenOrder G.isGuard threads.log)
    (horder : takenOrder G.isGuard next.log = takenOrder G.isGuard threads.log)
    (hprogram : forall other, other ≠ thread -> next.program other = threads.program other)
    (houter : next.owner G.outer = threads.owner G.outer)
    (hrest : G.rest next.shared = G.rest threads.shared)
    (hfits : G.fits (G.part next.shared)) : G.Waiting call refused next := by
  have hextends : G.Extends (G.rest threads.shared) (G.rest next.shared) := by
    rw [hrest]
    exact Extends.refl G _
  refine h.step ⟨hprogram, ?_, fun _ _ _ => hrest, hextends⟩ ?_ hfits ?_ ?_ ?_ ?_
  · intro other _
    rw [houter]
  · rw [hrest]
    exact h.sound
  · rw [horder]
    exact h.nodup
  · intro other _
    rw [horder]
  · intro hnot
    rw [horder] at hnot
    exact absurd hmem hnot
  · intro _
    rw [houter]
    exact h.outer thread hmem

theorem Guarded.work (h : G.Guarded call refused first threads) {front : List ι} {key : κ}
    (hbusy : G.Busy call first threads front thread key)
    (horder : takenOrder G.isGuard next.log = takenOrder G.isGuard threads.log)
    (hprogram : forall other, other ≠ thread -> next.program other = threads.program other)
    (hguards : forall other, G.isGuard other = true ∨ other = G.outer ->
      next.owner other = threads.owner other)
    (hrest : G.rest next.shared = G.rest threads.shared)
    (hfits : G.fits (G.part next.shared)) (hinside : G.Inside key (next.program thread))
    (hrun : (next.program thread).run next.shared =
      (threads.program thread).run threads.shared) :
    G.Guarded call refused first next where
  waiting := h.waiting.work hbusy.mem horder hprogram (hguards _ (.inr rfl)) hrest hfits
  phase := by
    have hnodup := h.waiting.nodup
    rw [hbusy.order] at hnodup
    refine Or.inr ⟨front, thread, key, ?_, ?_, ?_, ?_, hinside, ?_, ?_, ?_⟩
    · rw [horder]
      exact hbusy.order
    · rw [hrest]
      exact hbusy.guard
    · rw [hguards key (.inl (G.guard_isGuard hbusy.guard))]
      exact hbusy.owner
    · intro other hguard hne
      rw [hguards other (.inl hguard)]
      exact hbusy.free other hguard hne
    · rw [hrun]
      exact hbusy.part
    · rw [hrun]
      exact hbusy.result
    · apply hbusy.finished.frame
      intro other hmem
      apply hprogram
      rintro rfl
      exact (List.nodup_append.mp hnodup).2.2 other hmem other List.mem_cons_self rfl

theorem not_done_of_step (hstep : ThreadStep threads thread next) (result : ρ) :
    threads.program thread ≠ .done result := by
  intro hdone
  cases hstep with
  | lock hat hfree => rw [hdone] at hat; cases hat
  | unlock hat howner => rw [hdone] at hat; cases hat
  | act hat => rw [hdone] at hat; cases hat
  | choose answer hat => rw [hdone] at hat; cases hat

theorem Guarded.busy (h : G.Guarded call refused first threads)
    (hmem : thread ∈ takenOrder G.isGuard threads.log)
    (hstep : ThreadStep threads thread next) :
    exists front key, G.Busy call first threads front thread key := by
  rcases h.phase with hidle | ⟨front, worker, key, hbusy⟩
  · rcases hidle.finished.done hmem with ⟨result, hdone⟩
    exact absurd hdone (not_done_of_step hstep result)
  · rw [hbusy.order, List.mem_append, List.mem_singleton] at hmem
    rcases hmem with hfront | rfl
    · rcases hbusy.finished.done hfront with ⟨result, hdone⟩
      exact absurd hdone (not_done_of_step hstep result)
    · exact ⟨front, key, hbusy⟩

theorem Guarded.release (h : G.Guarded call refused first threads) {front : List ι} {key : κ}
    (hbusy : G.Busy call first threads front thread key) {result : ρ}
    (hat : threads.program thread = .unlock key (.done result)) :
    G.Guarded call refused first
      { threads.setProgram thread (.done result) with
        owner := Function.update threads.owner key none
        log := threads.log ++ [(thread, .released key)] } := by
  have hne : G.outer ≠ key := by
    intro houter
    have hisGuard := G.guard_isGuard hbusy.guard
    rw [← houter, G.outer_not_guard] at hisGuard
    cases hisGuard
  have hnodup := h.waiting.nodup
  have hpart := hbusy.part
  have hresult := hbusy.result
  rw [hbusy.order] at hnodup
  rw [hat] at hpart hresult
  have horder := takenOrder_released G.isGuard threads.log thread key
  have hframe : forall other, other ≠ thread ->
      (threads.setProgram thread (.done result)).program other = threads.program other :=
    fun other => setProgram_other threads _
  constructor
  · refine h.waiting.work hbusy.mem horder hframe ?_ rfl h.waiting.fits
    simp only [Function.update_of_ne hne]
  · refine Or.inl ⟨?_, ?_, ?_⟩
    · intro other hother
      by_cases hsame : other = key
      · rw [hsame]
        exact Function.update_self ..
      · simp only [Function.update_of_ne hsame]
        exact hbusy.free other hother hsame
    · simp only [horder]
      rw [hbusy.order, serially_append]
      exact hpart
    · simp only [horder]
      rw [hbusy.order, finished_append]
      refine ⟨hbusy.finished.frame ?_, ?_⟩
      · intro other hother
        apply hframe
        rintro rfl
        exact (List.nodup_append.mp hnodup).2.2 other hother other List.mem_cons_self rfl
      · rw [setProgram_self, ← hresult]
        rfl

theorem Guarded.step_inside (h : G.Guarded call refused first threads)
    (hmem : thread ∈ takenOrder G.isGuard threads.log)
    (hstep : ThreadStep threads thread next) : G.Guarded call refused first next := by
  rcases h.busy hmem hstep with ⟨front, key, hbusy⟩
  have hinside := hbusy.inside
  have hothers : forall program other, other ≠ thread ->
      (threads.setProgram thread program).program other = threads.program other :=
    fun program other => setProgram_other threads program
  cases hstep with
  | @lock taken program hat hfree =>
      rw [hat] at hinside
      rcases hinside with ⟨houter, hnot, hmore⟩
      refine h.work hbusy (takenOrder_other hnot _ _) (hothers program) ?_ rfl h.waiting.fits
        ?_ ?_
      · intro other hother
        have hne : other ≠ taken := by
          rintro rfl
          rcases hother with hguard | rfl
          · rw [hnot] at hguard
            cases hguard
          · exact houter rfl
        simp only [Function.update_of_ne hne]
      · rw [setProgram_self]
        exact hmore
      · rw [setProgram_self, hat]
        rfl
  | @unlock given program hat howner =>
      rw [hat, Inside] at hinside
      split at hinside
      · rename_i hgiven
        subst hgiven
        rcases hinside with ⟨result, rfl⟩
        exact h.release hbusy hat
      · rcases hinside with ⟨houter, hnot, hmore⟩
        refine h.work hbusy (takenOrder_released _ _ _ _) (hothers program) ?_ rfl
          h.waiting.fits ?_ ?_
        · intro other hother
          have hne : other ≠ given := by
            rintro rfl
            rcases hother with hguard | rfl
            · rw [hnot] at hguard
              cases hguard
            · exact houter rfl
          simp only [Function.update_of_ne hne]
        · rw [setProgram_self]
          exact hmore
        · rw [setProgram_self, hat]
          rfl
  | @act reference update more hat =>
      rw [hat] at hinside
      rcases (hinside threads.shared h.waiting.fits).1 with ⟨hfits, hrest, hmore⟩
      refine h.work hbusy rfl (hothers _) (fun _ _ => rfl) hrest hfits ?_ ?_
      · rw [setProgram_self]
        exact hmore
      · rw [setProgram_self, hat]
        rfl
  | @choose more answer hat =>
      rw [hat] at hinside
      exact hinside.elim

end Steps

section Run

variable {G} {call : ι -> π -> π × ρ} {refused : ι -> ρ -> Prop}
  {program : ι -> LockProgram κ μ σ ρ} {shared : σ}

theorem guarded_start (hfits : G.fits (G.part shared)) (hsound : G.sound (G.rest shared))
    (hseeks : forall thread,
      G.Seeks (call thread) (refused thread) false (G.rest shared) (program thread)) :
    G.Guarded call refused (G.part shared) (startThreads program shared) where
  waiting :=
    { sound := hsound
      fits := hfits
      nodup := List.nodup_nil
      seeks := fun thread _ => hseeks thread
      outer := fun _ hmem => by cases hmem }
  phase := Or.inl
    { free := fun _ _ => rfl
      part := rfl
      finished := trivial }

theorem guarded_reachable (hfits : G.fits (G.part shared)) (hsound : G.sound (G.rest shared))
    (hseeks : forall thread,
      G.Seeks (call thread) (refused thread) false (G.rest shared) (program thread))
    {threads : Threads ι κ μ σ ρ} (hreach : (lockSystem program shared).Reachable threads) :
    G.Guarded call refused (G.part shared) threads := by
  have hkept : (lockSystem program shared).Kept
      (G.Guarded call refused (G.part shared)) := by
    intro threads next h hstep
    rcases hstep with ⟨thread, hstep⟩
    by_cases hmem : thread ∈ takenOrder G.isGuard threads.log
    · exact h.step_inside hmem hstep
    · exact h.step_outside hmem hstep
  apply hkept.reachable _ hreach
  rintro first rfl
  exact guarded_start hfits hsound hseeks

end Run

section Results

variable {G} {call : ι -> π -> π × ρ} {refused : ι -> ρ -> Prop} {first : π}
  {threads : Threads ι κ μ σ ρ} {thread : ι} {result : ρ}
  (h : G.Guarded call refused first threads)
include h

theorem Guarded.result_at {front back : List ι}
    (horder : takenOrder G.isGuard threads.log = front ++ thread :: back)
    (hdone : threads.program thread = .done result) :
    result = (call thread (serially call first front)).2 := by
  rcases h.phase with hidle | ⟨before, worker, key, hbusy⟩
  · have hfinished := hidle.finished
    rw [horder] at hfinished
    rw [hfinished.result] at hdone
    exact (LockProgram.done.inj hdone).symm
  · have hsplit := hbusy.order.symm.trans horder
    rcases List.eq_nil_or_concat back with rfl | ⟨behind, last, rfl⟩
    · have hworker := (List.append_inj' hsplit rfl).2
      have hinside := hbusy.inside
      rw [List.singleton_inj.mp hworker, hdone] at hinside
      exact hinside.elim
    · rw [List.concat_eq_append, ← List.cons_append, ← List.append_assoc] at hsplit
      have hfinished := hbusy.finished
      rw [(List.append_inj' hsplit rfl).1] at hfinished
      rw [hfinished.result] at hdone
      exact (LockProgram.done.inj hdone).symm

theorem Guarded.refused_of_done (hout : thread ∉ takenOrder G.isGuard threads.log)
    (hdone : threads.program thread = .done result) : refused thread result := by
  have hseeks := h.waiting.seeks thread hout
  rw [hdone] at hseeks
  exact hseeks.2

theorem Guarded.part_of_free
    (hfree : forall key, G.isGuard key = true -> threads.owner key = none) :
    G.part threads.shared = serially call first (takenOrder G.isGuard threads.log) := by
  rcases h.phase with hidle | ⟨before, worker, key, hbusy⟩
  · exact hidle.part
  · have howner := hbusy.owner
    rw [hfree key (G.guard_isGuard hbusy.guard)] at howner
    cases howner

theorem Guarded.owner_unique {other : ι} {key found : κ} (hkey : G.isGuard key = true)
    (hfound : G.isGuard found = true) (howner : threads.owner key = some thread)
    (hother : threads.owner found = some other) : thread = other ∧ key = found := by
  rcases h.phase with hidle | ⟨before, worker, held, hbusy⟩
  · rw [hidle.free key hkey] at howner
    cases howner
  · have hheld : forall {lock : κ} {holder : ι}, G.isGuard lock = true ->
        threads.owner lock = some holder -> lock = held ∧ holder = worker := by
      intro lock holder hlock hholder
      by_cases hsame : lock = held
      · rw [hsame, hbusy.owner] at hholder
        exact ⟨hsame, (Option.some.inj hholder).symm⟩
      · rw [hbusy.free lock hlock hsame] at hholder
        cases hholder
    rcases hheld hkey howner with ⟨hlock, hholder⟩
    rcases hheld hfound hother with ⟨hlock', hholder'⟩
    exact ⟨hholder.trans hholder'.symm, hlock.trans hlock'.symm⟩

theorem Guarded.free_of_returned
    (hreturned : forall thread, (threads.program thread).Returned) (key : κ)
    (hkey : G.isGuard key = true) : threads.owner key = none := by
  rcases h.phase with hidle | ⟨before, worker, held, hbusy⟩
  · exact hidle.free key hkey
  · have hworker := hreturned worker
    have hinside := hbusy.inside
    rcases hworker.eq_done with ⟨result, hprogram⟩
    rw [hprogram] at hinside
    exact hinside.elim

end Results

end Threads

end Guarding

end Foundation
end SqlCsvServer
