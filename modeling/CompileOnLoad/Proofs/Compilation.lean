import CompileOnLoad.Proofs.Bare

/-!
# Giving files to engines

With a quiet compiler, giving a file to an engine always returns.  The outcome
follows from the eligibility of the file and from what the compiler makes of it,
and apart from the logging it changes just the memory of the compiler, the queue
and the tally of the engine.
-/

namespace CompileOnLoad

variable {Key Memory : Type}

def Outcome.requests : Outcome -> List Request
  | compiled artifact => [⟨artifact, .deferred⟩]
  | _ => []

namespace Engine

def outcomeOf (source : Path) : Ending (Except CompileFailure Path) -> Outcome
  | .returned (.ok artifact) => .compiled artifact
  | .returned (.error failure) => .failed failure
  | .panicked panic => .failed (.panicked source (panicMessage panic))
  | .exhausted => .skipped

def result (routines : Routines Key Memory) (index : Nat) (path? : Option Path)
    (host : Host Key Memory) : Outcome × Memory :=
  match path? with
  | none => (.skipped, host.memory)
  | some source =>
      if host.isEligible index (some source) then
        let (ending, memory) := (routines.compile index source).eval host.memory
        (outcomeOf source ending, memory)
      else (.skipped, host.memory)

end Engine

def Host.settle (index : Nat) (result : Outcome × Memory) (host : Host Key Memory) :
    Host Key Memory :=
  { host with memory := result.2, queue := host.queue ++ result.1.requests }.count
    index result.1

namespace Host

theorem settle_skipped (index : Nat) (host : Host Key Memory) :
    host.settle index (.skipped, host.memory) = host.count index .skipped := by
  unfold settle
  simp [Outcome.requests]

theorem SameBare.settle {host host' : Host Key Memory} (h : SameBare host host')
    (index : Nat) (result : Outcome × Memory) :
    SameBare (host.settle index result) (host'.settle index result) :=
  h.map (Host.settle index result) fun _ => rfl

end Host

namespace Engine

variable {routines : Routines Key Memory} {index : Nat}

theorem result_of_eligible {source : Path} {host : Host Key Memory}
    (h : host.isEligible index (some source) = true) :
    result routines index (some source) host =
      (outcomeOf source ((routines.compile index source).eval host.memory).1,
        ((routines.compile index source).eval host.memory).2) := by
  simp only [result, h, if_true]

theorem result_of_ineligible {path? : Option Path} {host : Host Key Memory}
    (h : host.isEligible index path? = false) :
    result routines index path? host = (.skipped, host.memory) := by
  cases path? with
  | none => rfl
  | some source => simp [result, h]

theorem compile_of_eligible (perform : Performer Key Memory) {source : Path}
    {host : Host Key Memory} (h : host.isEligible index (some source) = true) :
    let policy := host.policy (host.engine index).policy
    let logger := (host.engine index).logger
    compile routines perform index (some source) host =
      compileEligible routines perform index source
        ((reportErrors logger (judge (some source) policy host.suffixes).errors host).log
          logger (if policy.verbose then .info else .debug) target
          ("Compiling " ++ source.text)) := by
  have hverdict : (judge (some source) (host.policy (host.engine index).policy)
      host.suffixes).verdict = .eligible := of_decide_eq_true h
  simp only [compile, hverdict]

theorem compile_of_ineligible (perform : Performer Key Memory) {path? : Option Path}
    {host : Host Key Memory} (h : host.isEligible index path? = false) :
    let policy := host.policy (host.engine index).policy
    let judgement := judge path? policy host.suffixes
    compile routines perform index path? host =
      Act.ofPure (skip index path? judgement.verdict)
        (reportErrors (host.engine index).logger judgement.errors host) := by
  have hverdict : (judge path? (host.policy (host.engine index).policy)
      host.suffixes).verdict ≠ .eligible := of_decide_eq_false h
  unfold compile
  simp only
  split
  · next hjudged => exact absurd hjudged hverdict
  · rfl

theorem sameBare_skip (path? : Option Path) (verdict : Verdict)
    (host : Host Key Memory) :
    Host.SameBare (skip index path? verdict host).2
      (host.settle index (.skipped, host.memory)) := by
  rw [Host.settle_skipped]
  unfold skip
  cases path? with
  | none => rfl
  | some path =>
      exact (Host.sameBare_log host _ _ _ _).map (·.count index .skipped) fun _ => rfl

theorem sameBare_succeed (source artifact : Path) (host : Host Key Memory) :
    Host.SameBare (succeed index source artifact host).2
      (host.settle index (.compiled artifact, host.memory)) :=
  (Host.sameBare_log (host.enqueue ⟨artifact, .deferred⟩) _ _ _ _).map
    (·.count index (.compiled artifact)) fun _ => rfl

theorem sameBare_fail (source : Path) (failure : CompileFailure)
    (host : Host Key Memory) :
    Host.SameBare (fail index source failure host).2
      (host.settle index (.failed failure, host.memory)) := by
  unfold Host.settle Outcome.requests
  rw [List.append_nil]
  exact (Host.sameBare_log host _ _ _ _).map (·.count index (.failed failure))
    fun _ => rfl

theorem compileEligible_quiet (perform : Performer Key Memory) {source : Path}
    (hquiet : (routines.compile index source).IsQuiet) (host : Host Key Memory) :
    let compiled := (routines.compile index source).eval host.memory
    let act := compileEligible routines perform index source host
    act.1 = .returned (outcomeOf source compiled.1) ∧
      Host.SameBare act.2
        (host.settle index (outcomeOf source compiled.1, compiled.2)) := by
  have hended := Script.eval_ne_exhausted hquiet host.memory
  unfold compileEligible
  simp only [Script.run_eq_eval perform hquiet]
  revert hended
  rw [show (host.enterSpan (host.engine index).logger).memory = host.memory from rfl]
  rcases (routines.compile index source).eval host.memory with ⟨ending, memory⟩
  intro hended
  cases ending with
  | returned answer =>
      cases answer with
      | ok artifact => exact ⟨rfl, sameBare_succeed source artifact _⟩
      | error failure => exact ⟨rfl, sameBare_fail source failure _⟩
  | panicked panic => exact ⟨rfl, sameBare_fail source _ _⟩
  | exhausted => exact absurd rfl hended

/-- What giving a file to an engine answers and does, up to the logging. -/
theorem compile_quiet (perform : Performer Key Memory)
    (hquiet : forall source, (routines.compile index source).IsQuiet)
    (path? : Option Path) (host : Host Key Memory) :
    (compile routines perform index path? host).1 =
        .returned (result routines index path? host).1 ∧
      Host.SameBare (compile routines perform index path? host).2
        (host.settle index (result routines index path? host)) := by
  have hreported := Host.sameBare_reportErrors (host.engine index).logger
    (judge path? (host.policy (host.engine index).policy) host.suffixes).errors host
  cases heligible : host.isEligible index path? with
  | false =>
      rw [compile_of_ineligible perform heligible, result_of_ineligible heligible]
      refine ⟨rfl, (sameBare_skip path? _ _).trans ?_⟩
      rw [hreported.eq Host.memory fun _ => rfl]
      exact hreported.settle index _
  | true =>
      cases path? with
      | none => cases heligible
      | some source =>
          rw [compile_of_eligible perform heligible, result_of_eligible heligible]
          have hstart := (Host.sameBare_log _ (host.engine index).logger
            (if (host.policy (host.engine index).policy).verbose then .info else .debug)
            target ("Compiling " ++ source.text)).trans hreported
          rcases compileEligible_quiet perform (hquiet source) _ with ⟨hending, hafter⟩
          rw [hstart.eq Host.memory fun _ => rfl] at hending hafter
          exact ⟨hending, hafter.trans (hstart.settle index _)⟩

theorem result_eq_of_sameBare {host host' : Host Key Memory}
    (h : Host.SameBare host host') (path? : Option Path) :
    result routines index path? host = result routines index path? host' := by
  unfold result
  rw [h.eq Host.memory fun _ => rfl]
  cases path? with
  | none => rfl
  | some source =>
      simp only
      rw [h.isEligible]

end Engine
end CompileOnLoad
