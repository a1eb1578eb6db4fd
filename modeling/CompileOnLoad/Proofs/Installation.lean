import CompileOnLoad.Proofs.Continuation
import CompileOnLoad.Proofs.Switching

/-!
# Whose hooks are installed

Several interceptors and their host edit one list of observers.  If it is known
which interceptor has registered which hook, then the hooks in the list are those
of the active interceptors, one for each, and switching an interceptor keeps it so.
-/

namespace CompileOnLoad

variable {Key Memory : Type}

namespace Host

theorem Continues.of_sameBare {base host after : Host Key (Watched Key Memory)}
    (h : Continues base host) (hsame : SameBare after host) : Continues base after := by
  have hmemory := hsame.eq Host.memory fun _ => rfl
  exact h.of_eq (hsame.eq Host.interceptors fun _ => rfl)
    (congrArg Watched.seen hmemory) (hsame.eq Host.pipeline fun _ => rfl)

def hooksOf (installs : List (Nat × Nat)) (index : Nat)
    (host : Host Key (Watched Key Memory)) : List (Registration Key) :=
  host.pipeline.hooks.filter fun r => (index, r.id) ∈ installs

/-- The hooks in the list are those that active interceptors have registered. -/
structure Installed (installs : List (Nat × Nat)) (dropped : List Nat)
    (host : Host Key (Watched Key Memory)) : Prop where
  alone : (Alone.replay host.memory.seen).Matches host.pipeline
  hooks : host.pipeline.hooks.map (·.id) =
    (installs.filter fun p =>
      (host.interceptor p.1).activation = .active p.2).map (·.2)
  owned : forall index hook, (host.interceptor index).activation = .active hook ->
    (index, hook) ∈ installs
  increasing : installs.Pairwise fun p q => p.2 < q.2
  issued : forall p, p ∈ installs -> p.2 < host.pipeline.nextId
  dropped : forall index, index ∈ dropped ->
    (host.interceptor index).activation = .inactive

namespace Installed

variable {installs : List (Nat × Nat)} {dropped : List Nat}
variable {host after : Host Key (Watched Key Memory)}

theorem of_fresh (hfresh : host.IsFresh) : host.Installed [] [] where
  alone := by
    rw [hfresh.seen, hfresh.pipeline]
    exact Alone.matches_empty
  hooks := by
    rw [hfresh.pipeline]
    rfl
  owned := by
    intro index hook hactive
    rw [hfresh.activation_eq index] at hactive
    cases hactive
  increasing := List.Pairwise.nil
  issued p hp := by cases hp
  dropped index hindex := by cases hindex

theorem of_continues (h : host.Installed installs dropped)
    (hcontinues : Continues host after) (hhonest : Honest after.memory.seen) :
    after.Installed installs dropped := by
  have hinterceptor := hcontinues.interceptor_eq
  constructor
  · exact hcontinues.alone hhonest
  · simp only [hcontinues.hooks hhonest, hinterceptor]
    exact h.hooks
  · intro index hook
    rw [hinterceptor]
    exact h.owned index hook
  · exact h.increasing
  · intro p hp
    exact Nat.lt_of_lt_of_le (h.issued p hp) hcontinues.nextId
  · intro index hindex
    rw [hinterceptor]
    exact h.dropped index hindex

theorem eq_of_hook_eq (h : host.Installed installs dropped) {p q : Nat × Nat}
    (hp : p ∈ installs) (hq : q ∈ installs) (heq : p.2 = q.2) : p = q := by
  have hsame : installs.Pairwise fun p q => p.2 = q.2 -> p = q := by
    apply h.increasing.imp
    intro p q hless heq
    exact absurd heq (Nat.ne_of_lt hless)
  have hflip : installs.Pairwise (flip fun p q => p.2 = q.2 -> p = q) := by
    apply h.increasing.imp
    intro p q hless heq
    exact absurd heq (Nat.ne_of_gt hless)
  exact List.Pairwise.forall_of_forall_of_flip (fun _ _ _ => rfl) hsame hflip hp hq heq

theorem mem_hooks (h : host.Installed installs dropped) {index hook : Nat}
    (hactive : (host.interceptor index).activation = .active hook) :
    hook ∈ host.pipeline.hooks.map (·.id) := by
  rw [h.hooks]
  apply List.mem_map.mpr
  refine ⟨(index, hook), ?_, rfl⟩
  exact List.mem_filter.mpr ⟨h.owned index hook hactive, decide_eq_true hactive⟩

/-- The hook of an active interceptor is none of the registrations of the host. -/
theorem hook_apart (h : host.Installed installs dropped) {index hook : Nat}
    (hactive : (host.interceptor index).activation = .active hook)
    (p : Nat × Nat) (hp : p ∈ (Alone.replay host.memory.seen).numbers) :
    p.1 ≠ hook := by
  rcases List.mem_map.mp (h.mem_hooks hactive) with ⟨r, hr, hid⟩
  rw [← hid]
  exact h.alone.apart r hr p hp

theorem install (h : host.Installed installs dropped) {index : Nat}
    (hindex : index < host.interceptors.length)
    (hinactive : (host.interceptor index).activation = .inactive) :
    (host.install index).Installed (installs ++ [(index, host.pipeline.nextId)])
      (dropped.filter (· ≠ index)) := by
  have hself : ((host.install index).interceptor index).activation =
      .active host.pipeline.nextId :=
    congrArg Interceptor.activation (interceptor_setActivation hindex _)
  have hother : forall other, index ≠ other ->
      (host.install index).interceptor other = host.interceptor other := by
    intro other hne
    exact interceptor_setActivation_of_ne hne _
  have hold : forall p, p ∈ installs ->
      decide (((host.install index).interceptor p.1).activation = .active p.2) =
        decide ((host.interceptor p.1).activation = .active p.2) := by
    intro p hp
    by_cases heq : index = p.1
    · -- an earlier hook of the interceptor is in the list neither before nor after
      have hless := h.issued p hp
      have hne : host.pipeline.nextId ≠ p.2 := Nat.ne_of_gt hless
      rw [← heq, hself, hinactive]
      simp [hne]
    · rw [hother p.1 heq]
  constructor
  · exact h.alone.register_hook _
  · have hhooks : (host.install index).pipeline.hooks =
        host.pipeline.hooks ++
          [⟨host.pipeline.nextId, Priority.reserved,
            .hook (host.interceptor index).engine⟩] :=
      Pipeline.hooks_register_hook h.alone.ordered _
    have hnew : [(index, host.pipeline.nextId)].filter (fun p =>
        ((host.install index).interceptor p.1).activation = .active p.2) =
        [(index, host.pipeline.nextId)] := by
      rw [List.filter_eq_self]
      intro p hp
      rw [List.mem_singleton.mp hp]
      exact decide_eq_true hself
    rw [hhooks, List.map_append, h.hooks, List.filter_append, List.map_append,
      List.filter_congr hold, hnew]
    rfl
  · intro other hook hactive
    by_cases heq : index = other
    · rw [← heq, hself] at hactive
      cases hactive
      rw [heq]
      exact List.mem_append_right _ (List.mem_singleton.mpr rfl)
    · rw [hother other heq] at hactive
      exact List.mem_append_left _ (h.owned other hook hactive)
  · apply List.pairwise_append.mpr
    refine ⟨h.increasing, List.pairwise_singleton _ _, ?_⟩
    intro p hp q hq
    rw [List.mem_singleton.mp hq]
    exact h.issued p hp
  · intro p hp
    rcases List.mem_append.mp hp with hp | hp
    · exact Nat.lt_succ_of_lt (h.issued p hp)
    · rw [List.mem_singleton.mp hp]
      exact Nat.lt_succ_self _
  · intro other hmem
    rcases List.mem_filter.mp hmem with ⟨hdropped, hne⟩
    rw [hother other (Ne.symm (of_decide_eq_true hne))]
    exact h.dropped other hdropped

theorem uninstall (h : host.Installed installs dropped) {index hook : Nat}
    (hindex : index < host.interceptors.length)
    (hactive : (host.interceptor index).activation = .active hook) :
    (host.uninstall index hook).Installed installs dropped := by
  have hself : ((host.uninstall index hook).interceptor index).activation = .inactive :=
    congrArg Interceptor.activation (interceptor_setActivation hindex _)
  have hother : forall other, index ≠ other ->
      (host.uninstall index hook).interceptor other = host.interceptor other := by
    intro other hne
    exact interceptor_setActivation_of_ne hne _
  have hleft : forall p, p ∈ installs ->
      (decide (p.2 ≠ hook) &&
          decide ((host.interceptor p.1).activation = .active p.2)) =
        decide (((host.uninstall index hook).interceptor p.1).activation =
          .active p.2) := by
    intro p hp
    by_cases heq : index = p.1
    · rw [← heq, hself, hactive]
      by_cases hhook : hook = p.2
      · simp [hhook]
      · simp [hhook]
    · rw [hother p.1 heq]
      have hne : p.2 ≠ hook := by
        intro hhook
        apply heq
        have hp' := h.eq_of_hook_eq (h.owned index hook hactive) hp hhook.symm
        rw [← hp']
      simp [hne]
  constructor
  · exact h.alone.unregister_hook (h.hook_apart hactive)
  · have hhooks : (host.uninstall index hook).pipeline.hooks.map (·.id) =
        (host.pipeline.hooks.map (·.id)).filter (· ≠ hook) := by
      show (host.pipeline.unregister hook).2.hooks.map (·.id) = _
      rw [Pipeline.hooks_unregister, List.filter_map]
      rfl
    rw [hhooks, h.hooks, List.filter_map, List.filter_filter]
    exact congrArg (List.map (·.2)) (List.filter_congr hleft)
  · intro other hook' hactive'
    by_cases heq : index = other
    · rw [← heq, hself] at hactive'
      cases hactive'
    · rw [hother other heq] at hactive'
      exact h.owned other hook' hactive'
  · exact h.increasing
  · exact h.issued
  · intro other hmem
    by_cases heq : index = other
    · rw [← heq]
      exact hself
    · rw [hother other heq]
      exact h.dropped other hmem

theorem filter_dropped (h : host.Installed installs dropped) (index : Nat) :
    host.Installed installs (dropped.filter (· ≠ index)) :=
  { h with
    dropped := by
      intro other hmem
      exact h.dropped other (List.mem_filter.mp hmem).1 }

theorem cons_dropped (h : host.Installed installs dropped) {index : Nat}
    (hinactive : (host.interceptor index).activation = .inactive) :
    host.Installed installs (index :: dropped) :=
  { h with
    dropped := by
      intro other hmem
      rcases List.mem_cons.mp hmem with hother | hmem
      · rw [hother]
        exact hinactive
      · exact h.dropped other hmem }

/-- Of each interceptor, the hook that it is active with is in the list, and no
other. -/
theorem hooksOf_eq (h : host.Installed installs dropped) (index : Nat) :
    (host.hooksOf installs index).map (·.id) =
      (host.interceptor index).activation.hook?.toList := by
  have hids : (host.hooksOf installs index).map (·.id) =
      (installs.filter fun p => decide ((index, p.2) ∈ installs) &&
        decide ((host.interceptor p.1).activation = .active p.2)).map (·.2) := by
    unfold hooksOf
    calc
      _ = (host.pipeline.hooks.map (·.id)).filter fun id => (index, id) ∈ installs := by
        rw [List.filter_map]
        rfl
      _ = _ := by
        rw [h.hooks, List.filter_map, List.filter_filter]
        rfl
  rw [hids]
  cases hactivation : (host.interceptor index).activation with
  | inactive =>
      have hnone : (installs.filter fun p => decide ((index, p.2) ∈ installs) &&
          decide ((host.interceptor p.1).activation = .active p.2)) = [] := by
        rw [List.filter_eq_nil_iff]
        intro p hp hlive
        rw [Bool.and_eq_true, decide_eq_true_eq, decide_eq_true_eq] at hlive
        have hsame := h.eq_of_hook_eq hp hlive.1 rfl
        rw [hsame, hactivation] at hlive
        cases hlive.2
      rw [hnone]
      rfl
  | active hook =>
      have howned := h.owned index hook hactivation
      have hlive : forall p, p ∈ installs ->
          (decide ((index, p.2) ∈ installs) &&
            decide ((host.interceptor p.1).activation = .active p.2)) =
          decide (p = (index, hook)) := by
        intro p hp
        apply Bool.eq_iff_iff.mpr
        simp only [Bool.and_eq_true, decide_eq_true_eq]
        constructor
        · intro hlive
          rcases hlive with ⟨hmem, hactive⟩
          rcases p with ⟨other, number⟩
          cases h.eq_of_hook_eq hp hmem rfl
          rw [hactivation] at hactive
          cases hactive
          rfl
        · intro hself
          rw [hself]
          exact ⟨howned, hactivation⟩
      have hnodup : installs.Nodup := by
        apply h.increasing.imp
        intro p q hless heq
        rw [heq] at hless
        exact Nat.lt_irrefl _ hless
      have honce : installs.count (index, hook) = 1 :=
        hnodup.count.trans (if_pos howned)
      rw [List.filter_congr hlive, List.filter_eq, honce]
      rfl

end Installed

/-!
# Hooks in place
-/

/-- Each interceptor is active with some hook exactly if this is the one hook in
the list that it has registered, the hooks run before the actions, and the actions
are those that the calls of the host alone would have left. -/
structure HooksInPlace (installs : List (Nat × Nat)) (dropped : List Nat)
    (host : Host Key (Watched Key Memory)) : Prop where
  active : forall index hook, (host.interceptor index).activation = .active hook <->
    (host.hooksOf installs index).map (·.id) = [hook]
  inactive : forall index, (host.interceptor index).activation = .inactive ->
    host.hooksOf installs index = []
  dropped : forall index, index ∈ dropped -> host.hooksOf installs index = []
  owned : forall r, r ∈ host.pipeline.hooks -> exists index,
    r ∈ host.hooksOf installs index
  lead : host.pipeline.registrations.Pairwise fun r s =>
    s.observer.isHook = true -> r.observer.isHook = true
  actions : host.pipeline.actions.map (fun r => (r.priority, r.observer)) =
    (Alone.replay host.memory.seen).pipeline.registrations.map fun r =>
      (r.priority, r.observer)

theorem Installed.hooksInPlace {installs : List (Nat × Nat)} {dropped : List Nat}
    {host : Host Key (Watched Key Memory)} (h : host.Installed installs dropped) :
    host.HooksInPlace installs dropped := by
  have hinactive : forall index, (host.interceptor index).activation = .inactive ->
      host.hooksOf installs index = [] := by
    intro index hinactive
    apply List.map_eq_nil_iff.mp
    rw [h.hooksOf_eq, hinactive]
    rfl
  constructor
  · intro index hook
    rw [h.hooksOf_eq]
    cases (host.interceptor index).activation with
    | inactive => simp [Activation.hook?]
    | active other => simp [Activation.hook?]
  · exact hinactive
  · intro index hdropped
    exact hinactive index (h.dropped index hdropped)
  · intro r hr
    have hid : r.id ∈ host.pipeline.hooks.map (·.id) := List.mem_map_of_mem hr
    rw [h.hooks] at hid
    rcases List.mem_map.mp hid with ⟨p, hp, hsame⟩
    refine ⟨p.1, List.mem_filter.mpr ⟨hr, decide_eq_true ?_⟩⟩
    rw [← hsame]
    exact (List.mem_filter.mp hp).1
  · exact h.alone.ordered.hooks_lead
  · exact Alone.map_eq_of_forall₂ h.alone.actions

end Host
end CompileOnLoad
