import CompileOnLoad.Proofs.Installation

/-!
# Hooks in a run

Which interceptor has registered which hook follows from the steps of a run.  At
the end of every run the hooks are in place, and each step has answered truly
whether it has switched an interceptor.
-/

namespace CompileOnLoad

variable {Key Memory : Type}

/-- The hooks that were registered in a step, with the interceptor that was
switched on in it. -/
def Step.installs (step : Step Key Memory) : List (Nat × Nat) :=
  match step.operation with
  | .enable index =>
      (step.after.pipeline.hooks.filter fun r =>
        r.id ∉ step.before.pipeline.registrations.map (·.id)).map fun r => (index, r.id)
  | _ => []

def installs (steps : List (Step Key Memory)) : List (Nat × Nat) :=
  steps.flatMap Step.installs

def Operation.retire (dropped : List Nat) : Operation Key -> List Nat
  | drop index => index :: dropped
  | enable index => dropped.filter (· ≠ index)
  | _ => dropped

def retired (dropped : List Nat) (operations : List (Operation Key)) : List Nat :=
  operations.foldl (fun dropped operation => operation.retire dropped) dropped

namespace Step

/-- Switching on answers with a report exactly when an inactive interceptor has
become active, and switching off answers yes exactly when an active one has become
inactive.  Nothing else switches an interceptor, but one that is dropped is
inactive.  Switching on can fail to answer only if routines call back, and too
deep. -/
def Switches (routines : Routines Key Memory) : Step Key Memory -> Prop
  | ⟨.enable index, before, ending, after⟩ =>
      (after.interceptor index).activation.isActive = true ∧
      (ending = .returned none <->
        (before.interceptor index).activation.isActive = true) ∧
      (ending ≠ .exhausted ->
        ((exists report, ending = .returned (some report)) <->
          (before.interceptor index).activation.isActive = false ∧
            (after.interceptor index).activation.isActive = true)) ∧
      (routines.Quiet -> ending ≠ .exhausted)
  | ⟨.disable index, before, ending, after⟩ =>
      (after.interceptor index).activation.isActive = false ∧
      (exists answer, ending = .returned answer) ∧
      (ending = .returned true <->
        (before.interceptor index).activation.isActive = true ∧
          (after.interceptor index).activation.isActive = false)
  | ⟨.drop index, _, ending, after⟩ =>
      (after.interceptor index).activation.isActive = false ∧ ending = .returned ()
  | ⟨_, before, _, after⟩ => after.interceptors = before.interceptors

variable {index : Nat} {before after : Host Key (Watched Key Memory)}
variable {ending : Ending (Operation.Answer (.enable index : Operation Key))}

theorem installs_enable (new : List (Registration Key))
    (hhooks : after.pipeline.hooks = before.pipeline.hooks ++ new)
    (hnew : forall r, r ∈ new -> r.id ∉ before.pipeline.registrations.map (·.id)) :
    Step.installs ⟨.enable index, before, ending, after⟩ =
      new.map fun r => (index, r.id) := by
  have hbefore : before.pipeline.hooks.filter (fun r =>
      r.id ∉ before.pipeline.registrations.map (·.id)) = [] := by
    rw [List.filter_eq_nil_iff]
    intro r hr hno
    apply of_decide_eq_true hno
    exact List.mem_map_of_mem (List.mem_filter.mp hr).1
  have hafter : new.filter (fun r =>
      r.id ∉ before.pipeline.registrations.map (·.id)) = new := by
    rw [List.filter_eq_self]
    intro r hr
    exact decide_eq_true (hnew r hr)
  unfold Step.installs
  simp only
  rw [hhooks, List.filter_append, hbefore, hafter]
  rfl

end Step

namespace Host

/-- The number of interceptors, and if the host has been honest so far, whose hooks
are installed. -/
structure Tracked (count : Nat) (installs : List (Nat × Nat)) (dropped : List Nat)
    (host : Host Key (Watched Key Memory)) : Prop where
  length : host.interceptors.length = count
  installed : Honest host.memory.seen -> host.Installed installs dropped

namespace Tracked

variable {count : Nat} {installs : List (Nat × Nat)} {dropped : List Nat}
variable {host after : Host Key (Watched Key Memory)}
variable {routines : Routines Key Memory} {depth : Nat}

theorem continues (h : host.Tracked count installs dropped) : Continues host host :=
  Continues.refl fun hhonest => (h.installed hhonest).alone

theorem of_continues (h : host.Tracked count installs dropped)
    (hcontinues : Continues host after) : after.Tracked count installs dropped where
  length := by
    rw [hcontinues.interceptors]
    exact h.length
  installed := by
    intro hhonest
    exact (h.installed (hhonest.of_prefix hcontinues.seen)).of_continues hcontinues
      hhonest

theorem step_of_continues (h : host.Tracked count installs dropped)
    {operation : Operation Key}
    (hcontinues : Continues host (operation.step routines depth host).after)
    (hinstalls : (operation.step routines depth host).installs = [])
    (hretire : operation.retire dropped = dropped) :
    (operation.step routines depth host).after.Tracked count
      (installs ++ (operation.step routines depth host).installs)
      (operation.retire dropped) := by
  rw [hinstalls, hretire, List.append_nil]
  exact h.of_continues hcontinues

theorem install (h : host.Tracked count installs dropped) {index : Nat}
    (hindex : index < count)
    (hinactive : (host.interceptor index).activation = .inactive) :
    (host.install index).Tracked count (installs ++ [(index, host.pipeline.nextId)])
      (dropped.filter (· ≠ index)) where
  length := by
    rw [length_interceptors_install]
    exact h.length
  installed := by
    rw [← h.length] at hindex
    intro hhonest
    exact (h.installed hhonest).install hindex hinactive

theorem uninstall (h : host.Tracked count installs dropped) {index hook : Nat}
    (hindex : index < count)
    (hactive : (host.interceptor index).activation = .active hook) :
    (host.uninstall index hook).Tracked count installs dropped where
  length := by
    rw [length_interceptors_uninstall]
    exact h.length
  installed := by
    rw [← h.length] at hindex
    intro hhonest
    exact (h.installed hhonest).uninstall hindex hactive

theorem continues_enable_of_active (h : host.Tracked count installs dropped)
    (routines : Routines Key Memory) (depth : Nat) {index hook : Nat}
    (hactive : (host.interceptor index).activation = .active hook) :
    Continues host ((Operation.enable index).step routines depth host).after := by
  have hsame := (Interceptor.enable_of_active routines.watched
    (Host.perform routines.watched depth) hactive).2
  exact h.continues.of_sameBare hsame

/-- An inactive interceptor is switched on, and sweeps once its hook is
installed. -/
theorem continues_enable_of_inactive (h : host.Tracked count installs dropped)
    (routines : Routines Key Memory) (depth : Nat) {index : Nat} (hindex : index < count)
    (hinactive : (host.interceptor index).activation = .inactive) :
    Continues (host.install index)
      ((Operation.enable index).step routines depth host).after := by
  have hlogged : Continues (host.install index)
      ((host.install index).log (host.interceptor index).logger .info Interceptor.target
        "interception enabled") :=
    (h.install hindex hinactive).continues.of_eq rfl rfl rfl
  have hswept := hlogged.sweep routines depth index
  unfold Operation.step Operation.watch Operation.act
  simp only
  rw [Interceptor.enable_of_inactive hinactive, Act.andThen_map]
  exact hswept

theorem enable (h : host.Tracked count installs dropped) {index : Nat}
    (hindex : index < count) :
    ((Operation.enable index).step routines depth host).after.Tracked count
      (installs ++ ((Operation.enable index).step routines depth host).installs)
      (dropped.filter (· ≠ index)) := by
  cases hactivation : (host.interceptor index).activation with
  | active hook =>
      have hcontinues := h.continues_enable_of_active routines depth hactivation
      constructor
      · exact (h.of_continues hcontinues).length
      · intro hhonest
        have hinstalls :
            ((Operation.enable index).step routines depth host).installs = [] := by
          apply Step.installs_enable []
          · exact (hcontinues.hooks hhonest).trans (List.append_nil _).symm
          · intro r hr
            cases hr
        rw [hinstalls, List.append_nil]
        exact ((h.of_continues hcontinues).installed hhonest).filter_dropped index
  | inactive =>
      have hcontinues := h.continues_enable_of_inactive routines depth hindex
        hactivation
      have htracked := (h.install hindex hactivation).of_continues hcontinues
      constructor
      · exact htracked.length
      · intro hhonest
        have hbefore := h.installed (hhonest.of_prefix hcontinues.seen)
        have hinstalls :
            ((Operation.enable index).step routines depth host).installs =
              [(index, host.pipeline.nextId)] := by
          apply Step.installs_enable
            [⟨host.pipeline.nextId, Priority.reserved,
              .hook (host.interceptor index).engine⟩]
          · exact (hcontinues.hooks hhonest).trans
              (Pipeline.hooks_register_hook hbefore.alone.ordered _)
          · intro r hr hmem
            rw [List.mem_singleton.mp hr] at hmem
            rcases List.mem_map.mp hmem with ⟨old, hold, hid⟩
            have hless := hbefore.alone.ordered.issued old hold
            rw [hid] at hless
            exact Nat.lt_irrefl _ hless
        rw [hinstalls]
        exact htracked.installed hhonest

theorem switches_enable (h : host.Tracked count installs dropped) {index : Nat}
    (hindex : index < count) :
    ((Operation.enable index).step routines depth host).Switches routines := by
  cases hactivation : (host.interceptor index).activation with
  | active hook =>
      have hending : ((Operation.enable index).step routines depth host).ending =
          .returned none :=
        (Interceptor.enable_of_active routines.watched
          (Host.perform routines.watched depth) hactivation).1
      have hcontinues := h.continues_enable_of_active routines depth hactivation
      have hbefore : (host.interceptor index).activation.isActive = true := by
        rw [hactivation]
        rfl
      have hafter : (((Operation.enable index).step routines depth host).after.interceptor
          index).activation.isActive = true := by
        rw [hcontinues.interceptor_eq]
        exact hbefore
      refine ⟨hafter, ?_, ?_, ?_⟩
      · exact ⟨fun _ => hbefore, fun _ => hending⟩
      · intro _
        constructor
        · intro hreport
          rcases hreport with ⟨report, hreport⟩
          cases hending.symm.trans hreport
        · intro hchanged
          cases hbefore.symm.trans hchanged.1
      · intro _ hexhausted
        cases hending.symm.trans hexhausted
  | inactive =>
      have hcontinues := h.continues_enable_of_inactive routines depth hindex
        hactivation
      have hbefore : (host.interceptor index).activation.isActive = false := by
        rw [hactivation]
        rfl
      have hafter : (((Operation.enable index).step routines depth host).after.interceptor
          index).activation.isActive = true := by
        rw [← h.length] at hindex
        rw [hcontinues.interceptor_eq]
        exact congrArg (·.activation.isActive) (interceptor_setActivation hindex _)
      have hending := Interceptor.enable_ending_of_inactive routines.watched
        (Host.perform routines.watched depth) hactivation
      refine ⟨hafter, ?_, ?_, ?_⟩
      · constructor
        · intro hnone
          rcases hending with hending | ⟨report, hending⟩
          · cases hending.symm.trans hnone
          · cases hending.symm.trans hnone
        · intro hactive
          cases hbefore.symm.trans hactive
      · intro hreturns
        constructor
        · intro _
          exact ⟨hbefore, hafter⟩
        · intro _
          exact hending.resolve_left hreturns
      · intro hquiet
        rcases Interceptor.enable_moves hquiet (Host.perform routines.watched depth)
          hactivation with ⟨report, requests, hreport, -⟩
        intro hexhausted
        cases hreport.symm.trans hexhausted

theorem disable (h : host.Tracked count installs dropped) {index : Nat}
    (hindex : index < count) :
    (Interceptor.disable index host).2.Tracked count installs dropped := by
  cases hactivation : (host.interceptor index).activation with
  | inactive =>
      rw [Interceptor.disable_of_inactive hactivation]
      exact h
  | active hook =>
      have hsame := (Interceptor.disable_of_active hactivation).2
      have huninstalled := h.uninstall hindex hactivation
      exact huninstalled.of_continues (huninstalled.continues.of_sameBare hsame)

theorem switches_disable (h : host.Tracked count installs dropped) {index : Nat}
    (hindex : index < count) :
    ((Operation.disable index).step routines depth host).Switches routines := by
  rw [← h.length] at hindex
  have hafter : ((Interceptor.disable index host).2.interceptor index).activation.isActive =
      false := by
    rw [Interceptor.activation_disable hindex]
    rfl
  cases hactivation : (host.interceptor index).activation with
  | inactive =>
      have hbefore : (host.interceptor index).activation.isActive = false := by
        rw [hactivation]
        rfl
      have hanswer : ((Operation.disable index).step routines depth host).ending =
          .returned false := by
        show Ending.returned (Interceptor.disable index host).1 = _
        rw [Interceptor.disable_of_inactive hactivation]
        rfl
      refine ⟨hafter, ⟨_, rfl⟩, ?_⟩
      constructor
      · intro htrue
        cases hanswer.symm.trans htrue
      · intro hchanged
        cases hbefore.symm.trans hchanged.1
  | active hook =>
      have hbefore : (host.interceptor index).activation.isActive = true := by
        rw [hactivation]
        rfl
      have hanswer : ((Operation.disable index).step routines depth host).ending =
          .returned true :=
        congrArg Ending.returned (Interceptor.disable_of_active hactivation).1
      exact ⟨hafter, ⟨_, rfl⟩, fun _ => ⟨hbefore, hafter⟩, fun _ => hanswer⟩

theorem step (h : host.Tracked count installs dropped)
    (routines : Routines Key Memory) (depth : Nat) {operation : Operation Key}
    (hindex : forall index, operation.interceptor? = some index -> index < count) :
    (operation.step routines depth host).after.Tracked count
      (installs ++ (operation.step routines depth host).installs)
      (operation.retire dropped) ∧
    (operation.step routines depth host).Switches routines := by
  cases operation with
  | call c =>
      have hcontinues := h.continues.call routines depth c
      exact ⟨h.step_of_continues hcontinues rfl rfl, hcontinues.interceptors⟩
  | enable index =>
      have hrange := hindex index rfl
      exact ⟨h.enable hrange, h.switches_enable hrange⟩
  | disable index =>
      have hdisabled := h.disable (hindex index rfl)
      refine ⟨?_, h.switches_disable (hindex index rfl)⟩
      show (Interceptor.disable index host).2.Tracked count (installs ++ []) dropped
      rw [List.append_nil]
      exact hdisabled
  | drop index =>
      have hdisabled := h.disable (hindex index rfl)
      have hrange := hindex index rfl
      rw [← h.length] at hrange
      have hinactive := Interceptor.activation_disable hrange
      refine ⟨?_, congrArg Activation.isActive hinactive, rfl⟩
      show (Interceptor.disable index host).2.Tracked count (installs ++ [])
        (index :: dropped)
      rw [List.append_nil]
      constructor
      · exact hdisabled.length
      · intro hhonest
        exact (hdisabled.installed hhonest).cons_dropped hinactive
  | handle index path? =>
      have hcontinues := h.continues.handle routines depth index path?
      exact ⟨h.step_of_continues hcontinues rfl rfl, hcontinues.interceptors⟩
  | editSuffixes edit =>
      have hcontinues : Continues host
          ((Operation.editSuffixes edit).step routines depth host).after :=
        h.continues.of_eq rfl rfl rfl
      exact ⟨h.step_of_continues hcontinues rfl rfl, hcontinues.interceptors⟩

theorem run (h : host.Tracked count installs dropped)
    (routines : Routines Key Memory) (depth : Nat) {operations : List (Operation Key)}
    (hindex : forall operation, operation ∈ operations -> forall index,
      operation.interceptor? = some index -> index < count) :
    (Host.after routines depth operations host).Tracked count
      (installs ++ CompileOnLoad.installs (steps routines depth operations host))
      (retired dropped operations) ∧
    forall step, step ∈ steps routines depth operations host ->
      step.Switches routines := by
  -- the hooks known from the steps so far change with the host
  induction operations generalizing host installs dropped with
  | nil =>
      constructor
      · show host.Tracked count (installs ++ []) dropped
        rw [List.append_nil]
        exact h
      · intro step hstep
        cases hstep
  | cons operation rest ih =>
      rcases h.step routines depth (hindex operation (List.mem_cons_self ..))
        with ⟨htracked, hswitches⟩
      have hlater := ih htracked fun later hmem =>
        hindex later (List.mem_cons_of_mem operation hmem)
      rcases hlater with ⟨hend, hsteps⟩
      constructor
      · rw [List.append_assoc] at hend
        exact hend
      · intro step hstep
        rcases List.mem_cons.mp hstep with hfirst | hrest
        · rw [hfirst]
          exact hswitches
        · exact hsteps step hrest

end Tracked

/-- However operations follow each other, and whatever routines do in them: as long
as the host takes out only what it has registered, the hooks are in place, and every
step switches as it should. -/
theorem hooksInPlace_after (routines : Routines Key Memory) (depth : Nat)
    {host : Host Key (Watched Key Memory)} (hfresh : host.IsFresh)
    {operations : List (Operation Key)}
    (hindex : forall operation, operation ∈ operations -> forall index,
      operation.interceptor? = some index -> index < host.interceptors.length)
    (hhonest : Honest (after routines depth operations host).memory.seen) :
    (after routines depth operations host).HooksInPlace
      (CompileOnLoad.installs (steps routines depth operations host))
      (retired [] operations) ∧
    forall step, step ∈ steps routines depth operations host ->
      step.Switches routines := by
  have htracked : host.Tracked host.interceptors.length [] [] :=
    ⟨rfl, fun _ => Installed.of_fresh hfresh⟩
  rcases htracked.run routines depth hindex with ⟨hend, hswitches⟩
  exact ⟨(hend.installed hhonest).hooksInPlace, hswitches⟩

/-- Two interceptors are switched on and off, and one of them is dropped, while the
host registers actions, one of them with the least priority there is, and takes one
out. -/
def crowdedSession : List (Operation Nat) :=
  [.call (.register (.ofValue Int32.minValue) "first" 0), .enable 1,
    .call (.register (.ofValue 5) "last" 1), .enable 0, .enable 1,
    .call (.register (.ofValue (-7)) "between" 2), .call (.load (Path.ofString "a.el")),
    .disable 1, .call (.unregister 3), .drop 0, .enable 1]

def crowdedStart : Host Nat (Watched Nat Unit) :=
  { single Policy.empty [".el"] with
    interceptors := [⟨0, 0, .inactive⟩, ⟨0, 0, .inactive⟩] }

theorem inRange_crowdedSession (operation : Operation Nat)
    (hmem : operation ∈ crowdedSession) (index : Nat)
    (hindex : operation.interceptor? = some index) :
    index < crowdedStart.interceptors.length := by
  simp only [crowdedSession, List.mem_cons, List.not_mem_nil, or_false] at hmem
  rcases hmem with rfl | rfl | rfl | rfl | rfl | rfl | rfl | rfl | rfl | rfl | rfl
  all_goals cases hindex
  all_goals decide

theorem isFresh_crowdedStart : crowdedStart.IsFresh where
  seen := rfl
  history := rfl
  queue := rfl
  pipeline := rfl
  inactive := by
    intro interceptor hmem
    simp only [crowdedStart, List.mem_cons, List.not_mem_nil, or_false] at hmem
    rcases hmem with rfl | rfl
    · rfl
    · rfl

theorem hooksInPlace_crowdedSession :
    (after .plain 0 crowdedSession crowdedStart).HooksInPlace
      (CompileOnLoad.installs (steps .plain 0 crowdedSession crowdedStart))
      (retired [] crowdedSession) ∧
    (forall step, step ∈ steps .plain 0 crowdedSession crowdedStart ->
      step.Switches .plain) ∧
    CompileOnLoad.installs (steps .plain 0 crowdedSession crowdedStart) =
      [(1, 2), (0, 4), (1, 6)] ∧
    (after .plain 0 crowdedSession crowdedStart).pipeline.registrations.map
        (fun r => (r.id, r.observer.name)) =
      [(6, hookName), (1, "first"), (5, "between")] := by
  have hseen : (after .plain 0 crowdedSession crowdedStart).memory.seen =
      [.registered 1 (.ofValue Int32.minValue) "first" 0,
        .registered 3 (.ofValue 5) "last" 1, .registered 5 (.ofValue (-7)) "between" 2,
        .compiling 0 (Path.ofString "a.el"), .unregistered 3,
        .compiling 0 (Path.ofString "a.el")] := by
    decide +kernel
  have hhonest : Honest (after .plain 0 crowdedSession crowdedStart).memory.seen := by
    rw [hseen]
    refine ⟨⟨Int32.minValue, rfl⟩, ⟨5, rfl⟩, ⟨-7, rfl⟩, trivial, ?_, trivial, trivial⟩
    show 3 ∈ [1, 3, 5]
    decide
  have hrun := hooksInPlace_after .plain 0 isFresh_crowdedStart inRange_crowdedSession
  rcases hrun hhonest with ⟨hplace, hswitches⟩
  refine ⟨hplace, hswitches, ?_, ?_⟩
  · decide +kernel
  · decide +kernel

end Host
end CompileOnLoad
