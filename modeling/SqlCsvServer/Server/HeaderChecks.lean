import SqlCsvServer.Api.QueryHandler

/-!
# Header checks of many workers at once

`is_valid_query_content_type` and the `Transfer-Encoding` check of
`http_read_request` both walk over their header with `strtok`.  Two
workers that do so at the same time take tokens from each other's header.
-/

namespace SqlCsvServer
namespace Server

open Foundation Http Api

/-- A header check of some worker, with the value it is made on. -/
inductive HeaderCheck where
  | transferEncoding (value : Option Bytes)
  | contentType (value : Option Bytes)

/-- The loop of a check. -/
def HeaderCheck.call : HeaderCheck -> TokenCall Bool
  | .transferEncoding value => transferEncodingCheck value
  | .contentType value => contentTypeCheck value

/-- Every check that has ended has the outcome it has alone. -/
def OutcomesAlone {ι : Type} {checks : ι -> HeaderCheck}
    (threads : TokenThreads fun worker => (checks worker).call) : Prop :=
  forall worker outcome, threads.phase worker = .finished outcome ->
    outcome = (checks worker).call.alone

/--
In every run in which no worker calls `strtok` while another one is between
its first and its last call, every check has the outcome it has alone.
-/
theorem header_checks_alone {ι : Type} [DecidableEq ι] (checks : ι -> HeaderCheck)
    {threads : TokenThreads fun worker => (checks worker).call}
    (hreach :
      (undisturbedSystem fun worker => (checks worker).call).Reachable threads) :
    OutcomesAlone threads :=
  (undisturbed_alone hreach).finished

/-- Two requests, one of them with a charset that is not accepted. -/
def sampleChecks : Fin 2 -> HeaderCheck
  | 0 => .contentType (some (ascii "application/json; charset=latin-1"))
  | 1 => .contentType (some (ascii "application/json"))

theorem header_checks_alone_sample :
    exists threads : TokenThreads fun worker => (sampleChecks worker).call,
      threads.phase 1 = .finished true ∧ OutcomesAlone threads := by
  have hquiet : forall threads : TokenThreads fun worker =>
      (sampleChecks worker).call, threads.phase 0 = .ready ->
        threads.Undisturbed 1 := by
    rintro threads hready other hne ⟨state, hwaits⟩
    have hzero : forall other : Fin 2, other ≠ 1 -> other = 0 := by decide
    obtain rfl := hzero other hne
    rw [hready] at hwaits
    cases hwaits
  have hrest : (strtok (ascii ";") (ascii "application/json")).2 = [] := by
    decide
  refine ⟨_, rfl, header_checks_alone sampleChecks ⟨startTokens _, rfl,
    (Relation.ReflTransGen.refl.tail ⟨1, .first rfl rfl, hquiet _ rfl⟩).tail
      ⟨1, @TokenStep.more _ _ _ _ _ 1 _ [] rfl ?_, hquiet _ rfl⟩⟩⟩
  rintro owner rest hsaved _
  cases hsaved
  exact hrest.symm

/-- The calls of the first request, without and with the other one in between. -/
theorem header_check_takes_foreign_token :
    (sampleChecks 0).call.alone = false ∧
      exists threads : TokenThreads fun worker => (sampleChecks worker).call,
        (tokenSystem fun worker => (sampleChecks worker).call).Reachable threads ∧
          threads.phase 0 = .finished true ∧ ¬ OutcomesAlone threads := by
  have halone : (sampleChecks 0).call.alone = false := by
    decide
  have hrest : (strtok (ascii ";") (ascii "application/json")).2 = [] := by
    decide
  constructor
  · exact halone
  · refine ⟨_, ⟨startTokens _, rfl,
      ((Relation.ReflTransGen.refl.tail ⟨0, .first rfl rfl⟩).tail
        ⟨1, .first rfl rfl⟩).tail ⟨0, @TokenStep.more _ _ _ _ _ 0 _ [] rfl ?_⟩⟩,
      rfl, ?_⟩
    · rintro owner rest hsaved _
      cases hsaved
      exact hrest.symm
    · intro hall
      have hsame := hall 0 true rfl
      rw [halone] at hsame
      cases hsame

end Server
end SqlCsvServer
