import Mathlib.Logic.Function.Basic
import SqlCsvServer.Foundation.Bytes
import SqlCsvServer.Foundation.Transition

/-!
# Loops over the tokens of a text

`strtok` keeps the position behind its last token in one static variable.  A
loop that starts on a text of its own and asks for token after token gets all of
them as long as nobody else calls `strtok` before it has ended.
-/

namespace SqlCsvServer
namespace Foundation

/-!
## One call
-/

def strtok (delimiters text : Bytes) : Option Bytes × Bytes :=
  match text.dropWhile fun b => decide (b ∈ delimiters) with
  | [] => (none, [])
  | b :: rest =>
      (some ((b :: rest).takeWhile fun b => decide (b ∉ delimiters)),
        ((b :: rest).dropWhile fun b => decide (b ∉ delimiters)).drop 1)

theorem strtok_shorter {delimiters text token rest : Bytes}
    (h : strtok delimiters text = (some token, rest)) :
    rest.length < text.length := by
  unfold strtok at h
  have hsuffix := List.dropWhile_suffix (fun b => decide (b ∈ delimiters))
    (l := text)
  cases hstart : text.dropWhile fun b => decide (b ∈ delimiters) with
  | nil =>
      rw [hstart] at h
      cases h
  | cons b start =>
      rw [hstart] at h hsuffix
      simp only [Prod.mk.injEq] at h
      rw [← h.2, List.length_drop]
      have hbehind := (List.dropWhile_suffix (fun b => decide (b ∉ delimiters))
        (l := b :: start)).length_le
      have hlength := hsuffix.length_le
      rw [List.length_cons] at hbehind hlength
      omega

def tokensWithin (delimiters : Bytes) : Nat -> Bytes -> List Bytes
  | 0, _ => []
  | fuel + 1, text =>
      match strtok delimiters text with
      | (none, _) => []
      | (some token, rest) => token :: tokensWithin delimiters fuel rest

/-- All tokens of a text: what call after call returns until it returns NULL. -/
def tokens (delimiters text : Bytes) : List Bytes :=
  tokensWithin delimiters (text.length + 1) text

theorem tokensWithin_enough (delimiters : Bytes) :
    forall (fuel more : Nat) (text : Bytes), text.length < fuel ->
      text.length < more ->
        tokensWithin delimiters fuel text = tokensWithin delimiters more text := by
  intro fuel
  induction fuel with
  | zero =>
      intro more text hfuel
      exact absurd hfuel (Nat.not_lt_zero _)
  | succ fuel ih =>
      intro more text hfuel hmore
      cases more with
      | zero => exact absurd hmore (Nat.not_lt_zero _)
      | succ more =>
          rw [tokensWithin, tokensWithin]
          rcases hcall : strtok delimiters text with ⟨_ | token, rest⟩
          · rfl
          · have hshorter := strtok_shorter hcall
            simp only [List.cons.injEq, true_and]
            apply ih
            · exact Nat.lt_of_lt_of_le hshorter (Nat.le_of_lt_succ hfuel)
            · exact Nat.lt_of_lt_of_le hshorter (Nat.le_of_lt_succ hmore)

theorem tokens_none {delimiters text rest : Bytes}
    (h : strtok delimiters text = (none, rest)) : tokens delimiters text = [] := by
  unfold tokens
  rw [tokensWithin, h]

theorem tokens_some {delimiters text token rest : Bytes}
    (h : strtok delimiters text = (some token, rest)) :
    tokens delimiters text = token :: tokens delimiters rest := by
  have hshorter := strtok_shorter h
  unfold tokens
  rw [tokensWithin, h]
  simp only [List.cons.injEq, true_and]
  exact tokensWithin_enough delimiters _ _ rest hshorter (Nat.lt_succ_self _)

theorem strtok_run {d : Byte} {run tail : Bytes} (hne : run ≠ []) (hrun : d ∉ run)
    (htail : forall b more, tail = b :: more -> b = d) :
    strtok [d] (run ++ tail) = (some run, tail.drop 1) := by
  have hin : forall b, b ∈ run -> decide (b ∉ [d]) = true := by
    intro b hb
    have hbd : b ≠ d := fun h => hrun (h ▸ hb)
    simpa using hbd
  have htakes : (run ++ tail).takeWhile (fun b => decide (b ∉ [d])) = run := by
    rw [List.takeWhile_append_of_pos hin]
    cases tail with
    | nil => exact List.append_nil _
    | cons b more =>
        rw [List.takeWhile_cons, if_neg (by simp [htail b more rfl]), List.append_nil]
  have hdrops : (run ++ tail).dropWhile (fun b => decide (b ∉ [d])) = tail := by
    rw [List.dropWhile_append_of_pos hin]
    cases tail with
    | nil => rfl
    | cons b more => rw [List.dropWhile_cons, if_neg (by simp [htail b more rfl])]
  cases run with
  | nil => exact absurd rfl hne
  | cons first run =>
      have hfirst : first ≠ d := fun h => hrun (h ▸ List.mem_cons_self)
      have hstart : (first :: run ++ tail).dropWhile (fun b => decide (b ∈ [d])) =
          first :: (run ++ tail) := by
        rw [List.cons_append, List.dropWhile_cons, if_neg (by simp [hfirst])]
      unfold strtok
      rw [hstart]
      simp only
      rw [List.cons_append] at htakes hdrops
      rw [htakes, hdrops]

theorem tokens_splitOn (d : Byte) (text : Bytes) :
    tokens [d] text = (text.splitOn d).filter fun part => part != [] := by
  induction hlength : text.length using Nat.strong_induction_on generalizing text with
  | _ length ih =>
      subst hlength
      cases text with
      | nil => rfl
      | cons b rest =>
          by_cases hdelimiter : b = d
          · have hskip : strtok [d] (b :: rest) = strtok [d] rest := by
              unfold strtok
              rw [List.dropWhile_cons, if_pos (by simp [hdelimiter])]
            have hsame : tokens [d] (b :: rest) = tokens [d] rest := by
              rcases hcall : strtok [d] rest with ⟨_ | token, behind⟩
              · rw [tokens_none (hskip.trans hcall), tokens_none hcall]
              · rw [tokens_some (hskip.trans hcall), tokens_some hcall]
            rw [hsame, ih rest.length (Nat.lt_succ_self _) rest rfl,
              List.splitOn_cons_eq_if_modifyHead, if_pos (beq_iff_eq.mpr hdelimiter)]
            rfl
          · have hsplit := (List.takeWhile_append_dropWhile
              (p := fun b => b != d) (l := b :: rest)).symm
            have hrun : d ∉ (b :: rest).takeWhile fun b => b != d := by
              intro hmem
              simpa using List.mem_takeWhile_imp hmem
            have hne : ((b :: rest).takeWhile fun b => b != d) ≠ [] := by
              rw [List.takeWhile_cons, if_pos (bne_iff_ne.mpr hdelimiter)]
              exact List.cons_ne_nil _ _
            generalize (b :: rest).takeWhile (fun b => b != d) = run at hsplit hrun hne
            cases htail : (b :: rest).dropWhile fun b => b != d with
            | nil =>
                rw [htail, List.append_nil] at hsplit
                have hcall := @strtok_run d run [] hne hrun nofun
                rw [List.append_nil] at hcall
                rw [hsplit, tokens_some hcall, List.splitOn_eq_singleton hrun]
                simp [hne, tokens, tokensWithin, strtok]
            | cons other more =>
                have hother : other = d := by
                  have hhead := List.head_dropWhile_not (fun b => b != d)
                    (l := b :: rest) (by rw [htail]; exact List.cons_ne_nil _ _)
                  simpa [htail] using hhead
                rw [htail, hother] at hsplit
                have hcall := @strtok_run d run (d :: more) hne hrun
                  (fun b others h => (List.cons.inj h).1.symm)
                have hshorter : more.length < (b :: rest).length := by
                  rw [hsplit, List.length_append, List.length_cons]
                  omega
                rw [hsplit, tokens_some hcall, List.splitOn_append_cons_self_of_not_mem hrun,
                  List.filter_cons, if_pos (bne_iff_ne.mpr hne), List.drop_one,
                  List.tail_cons, ih more.length hshorter more rfl]

/-!
## Loops
-/

structure TokenLoop (ω : Type) where
  State : Type
  delimiters : Bytes
  start : State
  /-- After a token the loop goes on or ends with a result. -/
  onToken : State -> Bytes -> State ⊕ ω
  /-- The result when there is no token left. -/
  onEnd : State -> ω

/-- A loop before its first call, between two calls, and after its last one. -/
inductive LoopPhase (β ω : Type) where
  | ready
  | waiting (state : β)
  | finished (result : ω)

namespace TokenLoop

variable {ω : Type} (loop : TokenLoop ω)

/-- Where a loop is after a call has returned. -/
def after (state : loop.State) : Option Bytes -> LoopPhase loop.State ω
  | none => .finished (loop.onEnd state)
  | some token =>
      match loop.onToken state token with
      | .inl state => .waiting state
      | .inr result => .finished result

def resultOf : loop.State -> List Bytes -> ω
  | state, [] => loop.onEnd state
  | state, token :: more =>
      match loop.onToken state token with
      | .inl state => resultOf state more
      | .inr result => result

/-- The result of a loop on a text with nobody else around. -/
def alone (text : Bytes) : ω :=
  loop.resultOf loop.start (tokens loop.delimiters text)

theorem after_strtok (state : loop.State) (text : Bytes) :
    (forall next,
      loop.after state (strtok loop.delimiters text).1 = .waiting next ->
        loop.resultOf next (tokens loop.delimiters (strtok loop.delimiters text).2) =
          loop.resultOf state (tokens loop.delimiters text)) ∧
      forall result,
        loop.after state (strtok loop.delimiters text).1 = .finished result ->
          result = loop.resultOf state (tokens loop.delimiters text) := by
  rcases hcall : strtok loop.delimiters text with ⟨_ | token, rest⟩
  · rw [tokens_none hcall]
    constructor
    · intro next h
      cases h
    · intro result h
      cases h
      rfl
  · rw [tokens_some hcall]
    simp only [after, resultOf]
    cases loop.onToken state token with
    | inl more =>
        constructor
        · intro next h
          cases h
          rfl
        · intro result h
          cases h
    | inr found =>
        constructor
        · intro next h
          cases h
        · intro result h
          cases h
          rfl

end TokenLoop

/-!
## Loops that share the position
-/

/-- A loop and the text it is run on, if there is one. -/
structure TokenCall (ω : Type) where
  loop : TokenLoop ω
  text : Option Bytes
  /-- The result without a text. -/
  absent : ω

/-- The result of a call with nobody else around. -/
def TokenCall.alone {ω : Type} (call : TokenCall ω) : ω :=
  match call.text with
  | none => call.absent
  | some text => call.loop.alone text

/-- The loops of all threads, and whose copy the saved position is in. -/
structure TokenThreads {ι ω : Type} (calls : ι -> TokenCall ω) where
  phase : (thread : ι) -> LoopPhase (calls thread).loop.State ω
  /-- The owner of the copy, and the text from the position on. -/
  saved : Option (ι × Bytes)

section System

variable {ι ω : Type} [DecidableEq ι] {calls : ι -> TokenCall ω}

def TokenThreads.Waiting (threads : TokenThreads calls) (thread : ι) : Prop :=
  exists state, threads.phase thread = .waiting state

def TokenThreads.Reads (threads : TokenThreads calls) (text : Bytes) : Prop :=
  forall owner rest, threads.saved = some (owner, rest) ->
    threads.Waiting owner -> text = rest

/-- One call of `strtok`, and what its caller does with the token. -/
inductive TokenStep (threads : TokenThreads calls) (thread : ι) :
    TokenThreads calls -> Prop where
  | first {text : Bytes} (hat : threads.phase thread = .ready)
      (htext : (calls thread).text = some text) :
      TokenStep threads thread
        { phase :=
            Function.update threads.phase thread
              ((calls thread).loop.after (calls thread).loop.start
                (strtok (calls thread).loop.delimiters text).1)
          saved :=
            some (thread, (strtok (calls thread).loop.delimiters text).2) }
  | more {state : (calls thread).loop.State} {text : Bytes}
      (hat : threads.phase thread = .waiting state)
      (hreads : threads.Reads text) :
      TokenStep threads thread
        { phase :=
            Function.update threads.phase thread
              ((calls thread).loop.after state
                (strtok (calls thread).loop.delimiters text).1)
          saved :=
            threads.saved.map fun saved =>
              (saved.1, (strtok (calls thread).loop.delimiters text).2) }

def startTokens (calls : ι -> TokenCall ω) : TokenThreads calls :=
  { phase := fun thread =>
      match (calls thread).text with
      | none => .finished (calls thread).absent
      | some _ => .ready
    saved := none }

/-- Threads that run these calls, token by token in any order. -/
def tokenSystem (calls : ι -> TokenCall ω) :
    Transition (TokenThreads calls) :=
  { start := fun threads => threads = startTokens calls
    step := fun threads next => exists thread, TokenStep threads thread next }

/-- No other thread is between two of its calls. -/
def TokenThreads.Undisturbed (threads : TokenThreads calls) (thread : ι) : Prop :=
  forall other, other ≠ thread -> ¬ threads.Waiting other

/-- The same threads where nobody calls `strtok` while another loop waits. -/
def undisturbedSystem (calls : ι -> TokenCall ω) :
    Transition (TokenThreads calls) :=
  { start := fun threads => threads = startTokens calls
    step := fun threads next =>
      exists thread, TokenStep threads thread next ∧
        threads.Undisturbed thread }

structure TokensOwn (threads : TokenThreads calls) : Prop where
  waiting : forall thread state, threads.phase thread = .waiting state ->
    threads.Undisturbed thread ∧
      exists rest, threads.saved = some (thread, rest) ∧
        (calls thread).loop.resultOf state
            (tokens (calls thread).loop.delimiters rest) = (calls thread).alone
  finished : forall thread result, threads.phase thread = .finished result ->
    result = (calls thread).alone

theorem TokensOwn.moved {threads : TokenThreads calls} {thread : ι}
    {saved : Option (ι × Bytes)} (h : TokensOwn threads) (halone : threads.Undisturbed thread)
    {state : (calls thread).loop.State} {text : Bytes}
    (hsaved : saved =
      some (thread, (strtok (calls thread).loop.delimiters text).2))
    (hresult : (calls thread).loop.resultOf state
      (tokens (calls thread).loop.delimiters text) = (calls thread).alone) :
    @TokensOwn _ _ calls
      { phase :=
          Function.update threads.phase thread
            ((calls thread).loop.after state
              (strtok (calls thread).loop.delimiters text).1)
        saved := saved } := by
  have hafter := (calls thread).loop.after_strtok state text
  have hother : forall other, other ≠ thread ->
      Function.update threads.phase thread
        ((calls thread).loop.after state
          (strtok (calls thread).loop.delimiters text).1) other =
        threads.phase other :=
    fun other hne => Function.update_of_ne hne ..
  constructor
  · intro other next hat
    by_cases hsame : other = thread
    · subst hsame
      simp only [Function.update_self] at hat
      constructor
      · rintro another hne ⟨waited, hwaits⟩
        simp only [hother another hne] at hwaits
        exact halone another hne ⟨waited, hwaits⟩
      · exact ⟨_, hsaved, (hafter.1 next hat).trans hresult⟩
    · simp only [hother other hsame] at hat
      exact absurd ⟨next, hat⟩ (halone other hsame)
  · intro other result hat
    by_cases hsame : other = thread
    · subst hsame
      simp only [Function.update_self] at hat
      exact (hafter.2 result hat).trans hresult
    · simp only [hother other hsame] at hat
      exact h.finished other result hat

theorem TokensOwn.step {threads next : TokenThreads calls} {thread : ι}
    (h : TokensOwn threads) (hstep : TokenStep threads thread next)
    (halone : threads.Undisturbed thread) : TokensOwn next := by
  cases hstep with
  | @first text hat htext =>
      apply h.moved halone rfl
      rw [TokenCall.alone, htext]
      rfl
  | @more state text hat hreads =>
      rcases (h.waiting thread state hat).2 with ⟨rest, hsaved, hresult⟩
      have htext := hreads thread rest hsaved ⟨state, hat⟩
      subst htext
      apply h.moved halone
      · rw [hsaved]
        rfl
      · exact hresult

/--
As long as nobody calls `strtok` while another loop waits for its next token,
every loop ends with the result it has alone.
-/
theorem undisturbed_alone {threads : TokenThreads calls}
    (hreach : (undisturbedSystem calls).Reachable threads) :
    TokensOwn threads := by
  apply Transition.Kept.reachable (P := TokensOwn) _ _ hreach
  · rintro s t hs ⟨thread, hstep, halone⟩
    exact hs.step hstep halone
  · rintro s rfl
    constructor
    · intro thread state hat
      simp only [startTokens] at hat
      cases htext : (calls thread).text with
      | none =>
          rw [htext] at hat
          cases hat
      | some text =>
          rw [htext] at hat
          cases hat
    · intro thread result hat
      simp only [startTokens] at hat
      rw [TokenCall.alone]
      cases htext : (calls thread).text with
      | none =>
          rw [htext] at hat
          cases hat
          rfl
      | some text =>
          rw [htext] at hat
          cases hat

end System

end Foundation
end SqlCsvServer
