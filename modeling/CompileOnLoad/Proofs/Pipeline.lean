import CompileOnLoad.Host.Observer

/-!
# The running order

Registrations stand in ascending order of priority.  Hooks have the reserved
priority and actions have a greater one, so the hooks stand before the actions,
and registering or taking out the one kind leaves the other as it was.
-/

namespace CompileOnLoad

variable {Key : Type}

namespace Observer

def isHook : Observer Key -> Bool
  | hook _ => true
  | action _ _ => false

end Observer

namespace Pipeline

/-!
# Inserting a registration
-/

def Ascending (registrations : List (Registration Key)) : Prop :=
  registrations.Pairwise fun r s => r.priority.rank ≤ s.priority.rank

theorem mem_insert {r new : Registration Key} {registrations : List (Registration Key)} :
    r ∈ insert new registrations <-> r = new ∨ r ∈ registrations := by
  induction registrations with
  | nil => simp [insert]
  | cons first rest ih =>
      unfold insert
      split
      · simp only [List.mem_cons]
      · simp only [List.mem_cons, ih]
        exact or_left_comm

theorem ascending_insert (new : Registration Key)
    {registrations : List (Registration Key)} (h : Ascending registrations) :
    Ascending (insert new registrations) := by
  induction registrations with
  | nil => exact List.pairwise_singleton _ _
  | cons first rest ih =>
      rcases List.pairwise_cons.mp h with ⟨hfirst, hrest⟩
      unfold insert
      split
      · next hless =>
          apply List.pairwise_cons.mpr
          refine ⟨?_, h⟩
          intro r hr
          rcases List.mem_cons.mp hr with hr | hr
          · rw [hr]
            exact Int.le_of_lt hless
          · exact Int.le_trans (Int.le_of_lt hless) (hfirst r hr)
      · next hnot =>
          apply List.pairwise_cons.mpr
          refine ⟨?_, ih hrest⟩
          intro r hr
          rcases mem_insert.mp hr with hr | hr
          · rw [hr]
            exact Int.not_lt.mp hnot
          · exact hfirst r hr

/-- After registrations of no greater priority, a new one stands last. -/
theorem insert_of_forall_le {new : Registration Key}
    {registrations : List (Registration Key)}
    (h : forall r, r ∈ registrations -> r.priority.rank ≤ new.priority.rank) :
    insert new registrations = registrations ++ [new] := by
  induction registrations with
  | nil => rfl
  | cons first rest ih =>
      have hnot : ¬ new.priority.rank < first.priority.rank :=
        Int.not_lt.mpr (h first (List.mem_cons_self ..))
      unfold insert
      rw [if_neg hnot, ih]
      · rfl
      · intro r hr
        exact h r (List.mem_cons_of_mem first hr)

theorem insert_of_forall_lt {new : Registration Key}
    {registrations : List (Registration Key)}
    (h : forall r, r ∈ registrations -> new.priority.rank < r.priority.rank) :
    insert new registrations = new :: registrations := by
  cases registrations with
  | nil => rfl
  | cons first rest =>
      unfold insert
      rw [if_pos (h first (List.mem_cons_self ..))]

theorem filter_insert_of_neg {keep : Registration Key -> Bool} {new : Registration Key}
    (hnew : keep new = false) (registrations : List (Registration Key)) :
    (insert new registrations).filter keep = registrations.filter keep := by
  induction registrations with
  | nil => simp [insert, hnew]
  | cons first rest ih =>
      unfold insert
      split
      · rw [List.filter_cons, if_neg (by simp [hnew])]
      · rw [List.filter_cons, List.filter_cons, ih]

theorem filter_insert_of_pos {keep : Registration Key -> Bool} {new : Registration Key}
    (hnew : keep new = true) {registrations : List (Registration Key)}
    (h : Ascending registrations) :
    (insert new registrations).filter keep =
      insert new (registrations.filter keep) := by
  induction registrations with
  | nil => simp [insert, hnew]
  | cons first rest ih =>
      rcases List.pairwise_cons.mp h with ⟨hfirst, hrest⟩
      by_cases hless : new.priority.rank < first.priority.rank
      · have hfront : insert new ((first :: rest).filter keep) =
            new :: (first :: rest).filter keep := by
          apply insert_of_forall_lt
          intro r hr
          rcases List.mem_cons.mp (List.mem_filter.mp hr).1 with hr | hr
          · rw [hr]
            exact hless
          · exact Int.lt_of_lt_of_le hless (hfirst r hr)
        rw [hfront]
        unfold insert
        rw [if_pos hless, List.filter_cons, if_pos hnew]
      · cases hkeep : keep first with
        | true =>
            simp only [insert, if_neg hless, List.filter_cons, hkeep, if_true, ih hrest]
        | false =>
            simp only [insert, if_neg hless, List.filter_cons, hkeep, ih hrest]
            rfl

/-!
# Hooks and actions
-/

def hooks (pipeline : Pipeline Key) : List (Registration Key) :=
  pipeline.registrations.filter (·.observer.isHook)

def actions (pipeline : Pipeline Key) : List (Registration Key) :=
  pipeline.registrations.filter (!·.observer.isHook)

/-- The registrations are in order, hooks have the reserved priority and actions
a greater one, and all numbers have been given. -/
structure IsOrdered (pipeline : Pipeline Key) : Prop where
  ascending : Ascending pipeline.registrations
  hooks : forall r, r ∈ pipeline.registrations -> r.observer.isHook = true ->
    r.priority = Priority.reserved
  actions : forall r, r ∈ pipeline.registrations -> r.observer.isHook = false ->
    Priority.reserved.rank < r.priority.rank
  issued : forall r, r ∈ pipeline.registrations -> r.id < pipeline.nextId

variable {pipeline : Pipeline Key}

theorem isOrdered_empty : ({} : Pipeline Key).IsOrdered where
  ascending := List.Pairwise.nil
  hooks r hr := by cases hr
  actions r hr := by cases hr
  issued r hr := by cases hr

theorem IsOrdered.register (h : pipeline.IsOrdered) {priority : Priority}
    {observer : Observer Key}
    (hhook : observer.isHook = true -> priority = Priority.reserved)
    (haction : observer.isHook = false -> Priority.reserved.rank < priority.rank) :
    (pipeline.register priority observer).2.IsOrdered where
  ascending := ascending_insert _ h.ascending
  hooks := by
    intro r hr
    rcases mem_insert.mp hr with hr | hr
    · rw [hr]
      exact hhook
    · exact h.hooks r hr
  actions := by
    intro r hr
    rcases mem_insert.mp hr with hr | hr
    · rw [hr]
      exact haction
    · exact h.actions r hr
  issued := by
    intro r hr
    rcases mem_insert.mp hr with hr | hr
    · rw [hr]
      exact Nat.lt_succ_self _
    · exact Nat.lt_succ_of_lt (h.issued r hr)

theorem IsOrdered.register_hook (h : pipeline.IsOrdered) (engine : Nat) :
    (pipeline.register Priority.reserved (.hook engine)).2.IsOrdered := by
  apply h.register
  · intro _
    rfl
  · intro hno
    cases hno

theorem IsOrdered.register_action (h : pipeline.IsOrdered) (value : Int32)
    (name : String) (key : Key) :
    (pipeline.register (Priority.ofValue value) (.action name key)).2.IsOrdered := by
  apply h.register
  · intro hno
    cases hno
  · intro _
    exact Priority.reserved_rank_lt value

theorem IsOrdered.unregister (h : pipeline.IsOrdered) (id : Nat) :
    (pipeline.unregister id).2.IsOrdered where
  ascending := h.ascending.filter _
  hooks r hr := h.hooks r (List.mem_filter.mp hr).1
  actions r hr := h.actions r (List.mem_filter.mp hr).1
  issued r hr := h.issued r (List.mem_filter.mp hr).1

theorem IsOrdered.hooks_lead (h : pipeline.IsOrdered) :
    pipeline.registrations.Pairwise fun r s =>
      s.observer.isHook = true -> r.observer.isHook = true := by
  apply h.ascending.imp_of_mem
  intro r s hr hs hle hhook
  cases hkind : r.observer.isHook with
  | true => rfl
  | false =>
      have hgreater := h.actions r hr hkind
      rw [h.hooks s hs hhook] at hle
      exact absurd hgreater (Int.not_lt.mpr hle)

theorem hooks_register_hook (h : pipeline.IsOrdered) (engine : Nat) :
    (pipeline.register Priority.reserved (.hook engine)).2.hooks =
      pipeline.hooks ++ [⟨pipeline.nextId, Priority.reserved, .hook engine⟩] := by
  unfold register hooks
  rw [filter_insert_of_pos rfl h.ascending]
  apply insert_of_forall_le
  intro r hr
  have hreserved := h.hooks r (List.mem_filter.mp hr).1 (List.mem_filter.mp hr).2
  exact Int.le_of_eq (congrArg Priority.rank hreserved)

theorem actions_register_hook (priority : Priority) (engine : Nat) :
    (pipeline.register priority (.hook engine)).2.actions = pipeline.actions :=
  filter_insert_of_neg rfl _

theorem hooks_register_action (priority : Priority) (name : String) (key : Key) :
    (pipeline.register priority (.action name key)).2.hooks = pipeline.hooks :=
  filter_insert_of_neg rfl _

theorem actions_register_action (h : Ascending pipeline.registrations)
    (priority : Priority) (name : String) (key : Key) :
    (pipeline.register priority (.action name key)).2.actions =
      insert ⟨pipeline.nextId, priority, .action name key⟩ pipeline.actions :=
  filter_insert_of_pos rfl h

theorem hooks_unregister (id : Nat) :
    (pipeline.unregister id).2.hooks = pipeline.hooks.filter (·.id ≠ id) := by
  unfold unregister hooks
  simp only [List.filter_filter, Bool.and_comm]

theorem actions_unregister (id : Nat) :
    (pipeline.unregister id).2.actions = pipeline.actions.filter (·.id ≠ id) := by
  unfold unregister actions
  simp only [List.filter_filter, Bool.and_comm]

end Pipeline
end CompileOnLoad
