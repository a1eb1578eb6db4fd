import CompileOnLoad.Proofs.Compilation
import Mathlib.Data.List.Forall2

/-!
# Logging changes nothing that a host does

Two hosts that differ in their loggers, and in the malformed expressions of
their policies, have the same bare form.  With quiet routines, whatever is done
with both of them is answered alike and leads to the same bare form again.  So a
run does not depend on the loggers, even if their sinks remove malformed
expressions from policies in the middle of it.
-/

namespace CompileOnLoad

variable {Key Memory α : Type}

namespace Host

theorem sameBare_hookCorrespondence :
    HookCorrespondence (@SameBare Key Memory) where
  logger h := h.eq Host.logger fun _ => rfl
  pipeline h := h.eq Host.pipeline fun _ => rfl
  queue h := h.eq Host.queue fun _ => rfl
  history h := h.eq Host.history fun _ => rfl
  interceptors h := h.eq Host.interceptors fun _ => rfl
  setQueue h queue := h.map (fun host => { host with queue }) fun _ => rfl
  remember h file := h.map (·.remember file) fun _ => rfl
  log h _ _ _ _ :=
    ((sameBare_log _ _ _ _ _).trans h).trans (sameBare_log _ _ _ _ _).symm
  enterSpan h _ := h
  leaveSpan h _ := h
  setPipeline h pipeline := h.map (fun host => { host with pipeline }) fun _ => rfl
  setActivation h index activation :=
    h.map (·.setActivation index activation) fun _ => rfl

theorem sameBare_run (perform : Performer Key Memory) {script : Script Key Memory α}
    (hquiet : script.IsQuiet) :
    Act.Corresponds SameBare (script.run perform) (script.run perform) := by
  intro host host' h
  rw [Script.run_eq_eval perform hquiet, Script.run_eq_eval perform hquiet,
    h.eq Host.memory fun _ => rfl]
  exact ⟨rfl, h.map (fun host => { host with memory := _ }) fun _ => rfl⟩

theorem sameBare_routinesCorrespond {routines : Routines Key Memory}
    (hquiet : routines.Quiet) (perform : Performer Key Memory) :
    RoutinesCorrespond SameBare routines perform routines perform where
  compile := by
    intro engine path? host host' h
    rcases Engine.compile_quiet perform (hquiet.compile engine) path? host
      with ⟨hending, hafter⟩
    rcases Engine.compile_quiet perform (hquiet.compile engine) path? host'
      with ⟨hending', hafter'⟩
    rw [hending, hending', Engine.result_eq_of_sameBare h]
    rw [Engine.result_eq_of_sameBare h] at hafter
    exact ⟨rfl, (hafter.trans (h.settle engine _)).trans hafter'.symm⟩
  link artifact := sameBare_run perform (hquiet.link artifact)
  observe key path? := sameBare_run perform (hquiet.observe key path?)

end Host

/-!
# Policy edits

An edit may look at a policy, so it must not tell policies apart that differ in
their malformed expressions only.
-/

/-- The malformed expressions of a policy have no part in what the edit makes of
the others. -/
def Policy.RespectsPruning (edit : Policy -> Policy) : Prop :=
  forall policy, (edit policy).prune = (edit policy.prune).prune

namespace Policy

theorem respectsPruning_push (pattern : Pattern) :
    RespectsPruning (·.push pattern) := by
  intro policy
  exact prune_push policy pattern

end Policy

namespace Host

theorem bare_updatePolicy {edit : Policy -> Policy}
    (hedit : Policy.RespectsPruning edit) (host : Host Key Memory) (handle : Nat) :
    (host.updatePolicy handle edit).bare = (host.bare.updatePolicy handle edit).bare := by
  have hpolicies :
      (host.context.policies.modify handle edit).map Policy.prune =
        ((host.context.policies.map Policy.prune).modify handle edit).map
          Policy.prune := by
    apply List.ext_getElem?
    intro index
    simp only [List.getElem?_map, List.getElem?_modify]
    cases host.context.policies[index]? with
    | none => rfl
    | some policy =>
        by_cases hhandle : handle = index
        · simpa [hhandle] using hedit policy
        · simp [hhandle, Policy.prune_prune]
  exact congrArg (fun policies => { host with context := { policies } }) hpolicies

theorem SameBare.updatePolicy {host host' : Host Key Memory}
    (h : SameBare host host') {edit : Policy -> Policy}
    (hedit : Policy.RespectsPruning edit) (handle : Nat) :
    SameBare (host.updatePolicy handle edit) (host'.updatePolicy handle edit) := by
  have hsame : (host.bare.updatePolicy handle edit).bare =
      (host'.bare.updatePolicy handle edit).bare := by
    rw [show host.bare = host'.bare from h]
  exact (bare_updatePolicy hedit host handle).trans
    (hsame.trans (bare_updatePolicy hedit host' handle).symm)

end Host

/-!
# Runs
-/

namespace Operation

def RespectsPruning : Operation Key -> Prop
  | call (.editPolicy _ edit) => Policy.RespectsPruning edit
  | _ => True

theorem sameBare_perform {routines : Routines Key Memory} (hquiet : routines.Quiet)
    (depth : Nat) {c : Call Key} (hedit : (call c).RespectsPruning) :
    Act.Corresponds Host.SameBare (Host.perform routines (depth + 1) c)
      (Host.perform routines (depth + 1) c) := by
  have hhost := @Host.sameBare_hookCorrespondence Key Memory
  have hroutines :=
    Host.sameBare_routinesCorrespond hquiet (Host.perform routines depth)
  cases c with
  | register priority name key =>
      rw [Host.perform_register]
      apply Act.corresponds_ofPure
      intro host host' h
      exact hhost.register h priority (.action name key)
  | unregister id =>
      rw [Host.perform_unregister]
      apply Act.corresponds_ofPure
      intro host host' h
      exact hhost.unregister h id
  | enqueue request =>
      rw [Host.perform_enqueue]
      apply Act.corresponds_ofPure
      intro host host' h
      exact ⟨rfl, h.map (·.enqueue request) fun _ => rfl⟩
  | editPolicy handle edit =>
      rw [Host.perform_editPolicy]
      apply Act.corresponds_ofPure
      intro host host' h
      exact ⟨rfl, h.updatePolicy hedit handle⟩
  | load source => exact hhost.toCorrespondence.load hroutines source
  | announce path? => exact hhost.toCorrespondence.announce hroutines path?
  | runPending => exact hhost.toCorrespondence.runPending hroutines
  | compile engine path? => exact hroutines.compile engine path?

theorem sameBare_watch {routines : Routines Key Memory} (hquiet : routines.Quiet)
    (depth : Nat) {operation : Operation Key} (hedit : operation.RespectsPruning) :
    Act.Corresponds Host.SameBare (operation.watch routines depth)
      (operation.watch routines depth) := by
  have hhost := @Host.sameBare_hookCorrespondence Key (Watched Key Memory)
  have hroutines :=
    Host.sameBare_routinesCorrespond hquiet.watched (Host.perform routines.watched depth)
  cases operation with
  | call c =>
      apply Act.corresponds_andThen (sameBare_perform hquiet.watched depth hedit)
      intro answer host host' h
      exact ⟨rfl, h.map (·.see (c.sightings answer)) fun _ => rfl⟩
  | enable index => exact hhost.enable hroutines index
  | disable index =>
      apply Act.corresponds_ofPure
      intro host host' h
      exact hhost.disable h index
  | drop index =>
      apply Act.corresponds_ofPure
      intro host host' h
      exact ⟨rfl, (hhost.disable h index).2⟩
  | handle index path? => exact hhost.toCorrespondence.handle hroutines index path?
  | editSuffixes edit =>
      apply Act.corresponds_ofPure
      intro host host' h
      refine ⟨rfl, ?_⟩
      rw [h.eq Host.suffixes fun _ => rfl]
      exact h.map (fun host => { host with suffixes := _ }) fun _ => rfl

end Operation

/-- The steps are the same but for the logging: the same was done and answered,
and the hosts after it agree in all that is not a logger or a malformed
expression, and so in all that engines decide. -/
structure Step.Agrees (step step' : Step Key Memory) : Prop where
  ending : (⟨step.operation, step.ending⟩ :
      (operation : Operation Key) × Ending operation.Answer) =
    ⟨step'.operation, step'.ending⟩
  engines : step.after.engines = step'.after.engines
  queue : step.after.queue = step'.after.queue
  history : step.after.history = step'.after.history
  pipeline : step.after.pipeline = step'.after.pipeline
  interceptors : step.after.interceptors = step'.after.interceptors
  suffixes : step.after.suffixes = step'.after.suffixes
  /-- The visits of observers, and all else that was seen. -/
  seen : step.after.memory.seen = step'.after.memory.seen
  memory : step.after.memory.memory = step'.after.memory.memory
  policies : step.after.context.policies.map Policy.prune =
    step'.after.context.policies.map Policy.prune
  eligible : forall engine path?,
    step.after.isEligible engine path? = step'.after.isEligible engine path?

theorem Step.agrees_of_sameBare {operation : Operation Key}
    {before before' after after' : Host Key (Watched Key Memory)}
    {ending ending' : Ending operation.Answer} (hending : ending = ending')
    (h : Host.SameBare after after') :
    Step.Agrees ⟨operation, before, ending, after⟩
      ⟨operation, before', ending', after'⟩ where
  ending := congrArg (Sigma.mk operation) hending
  engines := h.eq Host.engines fun _ => rfl
  queue := h.eq Host.queue fun _ => rfl
  history := h.eq Host.history fun _ => rfl
  pipeline := h.eq Host.pipeline fun _ => rfl
  interceptors := h.eq Host.interceptors fun _ => rfl
  suffixes := h.eq Host.suffixes fun _ => rfl
  seen := h.eq (·.memory.seen) fun _ => rfl
  memory := h.eq (·.memory.memory) fun _ => rfl
  policies := congrArg (fun host => host.context.policies)
    (show after.bare = after'.bare from h)
  eligible := h.isEligible

namespace Host

theorem agrees_of_sameBare {routines : Routines Key Memory} (hquiet : routines.Quiet)
    (depth : Nat) (operations : List (Operation Key))
    (hedits : forall operation, operation ∈ operations -> operation.RespectsPruning)
    {host host' : Host Key (Watched Key Memory)} (h : SameBare host host') :
    List.Forall₂ Step.Agrees (steps routines depth operations host)
      (steps routines depth operations host') := by
  induction operations generalizing host host' with
  | nil => exact List.Forall₂.nil
  | cons operation rest ih =>
      rcases operation.sameBare_watch hquiet depth
        (hedits operation (List.mem_cons_self ..)) host host' h
        with ⟨hending, hafter⟩
      refine List.Forall₂.cons (Step.agrees_of_sameBare hending hafter) (ih ?_ hafter)
      intro later hlater
      exact hedits later (List.mem_cons_of_mem operation hlater)

def withLogging (host : Host Key (Watched Key Memory)) (logging : Log.Logging) :
    Host Key (Watched Key Memory) :=
  { host with context := { host.context with logging } }

/-- Whatever the loggers and their sinks, silent ones among them, a run takes the
same steps but for the logging. -/
theorem steps_agree_of_logging {routines : Routines Key Memory}
    (hquiet : routines.Quiet) (depth : Nat) (operations : List (Operation Key))
    (hedits : forall operation, operation ∈ operations -> operation.RespectsPruning)
    (host : Host Key (Watched Key Memory)) (logging logging' : Log.Logging) :
    List.Forall₂ Step.Agrees
      (steps routines depth operations (host.withLogging logging))
      (steps routines depth operations (host.withLogging logging')) :=
  agrees_of_sameBare hquiet depth operations hedits rfl

/-- A load is compiled while its policy has a malformed expression, and gets
another before the artifact is loaded. -/
def malformedSession : List (Operation Nat) :=
  [.enable 0, .call (.load (Path.ofString "a.el")),
    .call (.editPolicy 0 (·.push (.ofRegex "(y"))), .call .runPending]

theorem respectsPruning_malformedSession (operation : Operation Nat)
    (hmem : operation ∈ malformedSession) : operation.RespectsPruning := by
  simp only [malformedSession, List.mem_cons, List.not_mem_nil, or_false] at hmem
  rcases hmem with rfl | rfl | rfl | rfl
  · trivial
  · trivial
  · exact Policy.respectsPruning_push _
  · trivial

/-- A logger whose one sink removes malformed expressions takes the same steps as
no logger at all, although the policies become different ones. -/
theorem steps_agree_of_pruning :
    List.Forall₂ Step.Agrees
        (steps .plain 0 malformedSession
          ((single (Policy.empty.push (.ofRegex "(x")) [".el"]).withLogging {}))
        (steps .plain 0 malformedSession
          ((single (Policy.empty.push (.ofRegex "(x")) [".el"]).withLogging
            { loggers := [{ level := .trace, sinks := [.pruner 0] }] })) ∧
      (after .plain 0 malformedSession
          ((single (Policy.empty.push (.ofRegex "(x")) [".el"]).withLogging {})
        ).context.policies.map (·.exclusions.length) = [2] ∧
      (after .plain 0 malformedSession
          ((single (Policy.empty.push (.ofRegex "(x")) [".el"]).withLogging
            { loggers := [{ level := .trace, sinks := [.pruner 0] }] })
        ).context.policies.map (·.exclusions.length) = [0] := by
  refine ⟨?_, ?_, ?_⟩
  · exact steps_agree_of_logging Routines.quiet_plain 0 malformedSession
      respectsPruning_malformedSession _ _ _
  · decide +kernel
  · decide +kernel

end Host
end CompileOnLoad
