import CompileOnLoad.Proofs.OwnChanges
import CompileOnLoad.Proofs.Pipeline

/-!
# Registrations in running order

A pipeline is edited by registering observers and by taking registrations out.  Its
list is that of the registrations which are live, sorted by priority, where those of
one priority stay as they were registered; a registration is put into its place when
it is made, and no later edit moves it.

The observers are told of a load in the order of this list.
-/

namespace CompileOnLoad

variable {Key Memory : Type}

namespace Registration

/-- The order of priority, and of registration among equals. -/
def RunsBefore (r s : Registration Key) : Prop :=
  r.priority.rank < s.priority.rank ∨
    r.priority.rank = s.priority.rank ∧ r.id < s.id

theorem RunsBefore.rank_le {r s : Registration Key} (h : r.RunsBefore s) :
    r.priority.rank ≤ s.priority.rank := by
  rcases h with hless | ⟨hequal, -⟩
  · exact Int.le_of_lt hless
  · exact Int.le_of_eq hequal

theorem RunsBefore.asymm {r s : Registration Key} (h : r.RunsBefore s) :
    ¬ s.RunsBefore r := by
  unfold RunsBefore at h ⊢
  omega

end Registration

namespace Pipeline

/-!
# Sorting
-/

/-- The registrations sorted by priority; those of one priority stay in order. -/
def byPriority (registrations : List (Registration Key)) : List (Registration Key) :=
  registrations.mergeSort fun r s => r.priority.rank ≤ s.priority.rank

theorem perm_byPriority (registrations : List (Registration Key)) :
    (byPriority registrations).Perm registrations :=
  List.mergeSort_perm _ _

theorem ascending_byPriority (registrations : List (Registration Key)) :
    Ascending (byPriority registrations) := by
  have hsorted : (byPriority registrations).Pairwise fun r s =>
      decide (r.priority.rank ≤ s.priority.rank) = true :=
    List.pairwise_mergeSort (by grind) (by grind) registrations
  exact hsorted.imp of_decide_eq_true

theorem filter_byPriority (rank : Int) (registrations : List (Registration Key)) :
    (byPriority registrations).filter (·.priority.rank = rank) =
      registrations.filter (·.priority.rank = rank) := by
  have hequal : (registrations.filter (·.priority.rank = rank)).Pairwise fun r s =>
      decide (r.priority.rank ≤ s.priority.rank) = true := by
    apply List.pairwise_of_forall_mem_list
    intro r hr s hs
    have hrank := (List.mem_filter.mp hr).2
    have hrank' := (List.mem_filter.mp hs).2
    grind
  have hkept : (registrations.filter (·.priority.rank = rank)).Sublist
      (byPriority registrations) :=
    List.sublist_mergeSort (by grind) (by grind) hequal List.filter_sublist
  have hclass := hkept.filter (·.priority.rank = rank)
  rw [List.filter_filter] at hclass
  simp only [Bool.and_self] at hclass
  apply (hclass.eq_of_length _).symm
  exact ((perm_byPriority registrations).filter _).length_eq.symm

theorem runsBefore_byPriority {registrations : List (Registration Key)}
    (h : registrations.Pairwise fun r s => r.id < s.id) :
    (byPriority registrations).Pairwise Registration.RunsBefore := by
  apply List.pairwise_iff_forall_sublist.mpr
  intro r s hpair
  have hle := List.pairwise_iff_forall_sublist.mp (ascending_byPriority registrations) hpair
  rcases Int.lt_or_eq_of_le hle with hless | hequal
  · exact .inl hless
  · refine .inr ⟨hequal, ?_⟩
    have hclass := hpair.filter (·.priority.rank = s.priority.rank)
    rw [filter_byPriority] at hclass
    simp only [List.filter_cons, hequal, decide_true, if_true, List.filter_nil] at hclass
    exact List.pairwise_iff_forall_sublist.mp h (hclass.trans List.filter_sublist)

theorem eq_byPriority {ordered registrations : List (Registration Key)}
    (hperm : ordered.Perm registrations)
    (hordered : ordered.Pairwise Registration.RunsBefore)
    (hnumbered : registrations.Pairwise fun r s => r.id < s.id) :
    ordered = byPriority registrations := by
  apply List.Perm.eq_of_pairwise _ hordered (runsBefore_byPriority hnumbered)
  · exact hperm.trans (perm_byPriority registrations).symm
  · intro r s _ _ hbefore hafter
    exact absurd hafter hbefore.asymm

/-!
# Inserting the registration that is made last
-/

theorem perm_insert (new : Registration Key) (registrations : List (Registration Key)) :
    (insert new registrations).Perm (new :: registrations) := by
  induction registrations with
  | nil => exact List.Perm.refl _
  | cons first rest ih =>
      unfold insert
      split
      · exact List.Perm.refl _
      · exact (ih.cons first).trans (List.Perm.swap new first rest)

theorem runsBefore_insert {new : Registration Key}
    {registrations : List (Registration Key)}
    (h : registrations.Pairwise Registration.RunsBefore)
    (hlast : forall r, r ∈ registrations -> r.id < new.id) :
    (insert new registrations).Pairwise Registration.RunsBefore := by
  induction registrations with
  | nil => exact List.pairwise_singleton _ _
  | cons first rest ih =>
      rcases List.pairwise_cons.mp h with ⟨hfirst, hrest⟩
      unfold insert
      split
      · next hless =>
          apply List.pairwise_cons.mpr
          refine ⟨?_, h⟩
          intro r hr
          rcases List.mem_cons.mp hr with hr | hr
          · rw [hr]
            exact .inl hless
          · exact .inl (Int.lt_of_lt_of_le hless (hfirst r hr).rank_le)
      · next hnot =>
          apply List.pairwise_cons.mpr
          constructor
          · intro r hr
            rcases mem_insert.mp hr with hr | hr
            · rw [hr]
              rcases Int.lt_or_eq_of_le (Int.not_lt.mp hnot) with hless | hequal
              · exact .inl hless
              · exact .inr ⟨hequal, hlast first (List.mem_cons_self ..)⟩
            · exact hfirst r hr
          · apply ih hrest
            intro r hr
            exact hlast r (List.mem_cons_of_mem first hr)

end Pipeline

/-!
# Edits
-/

inductive Edit (Key : Type) where
  | register (priority : Priority) (observer : Observer Key)
  | unregister (id : Nat)

/-- The registrations that were made with a pipeline, in order, and those of them that
were not taken out. -/
structure Registry (Key : Type) where
  made : List (Registration Key) := []
  live : List (Registration Key) := []

namespace Edit

def apply : Edit Key -> Pipeline Key -> Pipeline Key
  | register priority observer, pipeline => (pipeline.register priority observer).2
  | unregister id, pipeline => (pipeline.unregister id).2

def note : Edit Key -> Pipeline Key -> Registry Key -> Registry Key
  | register priority observer, pipeline, registry =>
      let new : Registration Key :=
        ⟨(pipeline.register priority observer).1, priority, observer⟩
      ⟨registry.made ++ [new], registry.live ++ [new]⟩
  | unregister id, _, registry => { registry with live := registry.live.filter (·.id ≠ id) }

def step (state : Pipeline Key × Registry Key) (edit : Edit Key) :
    Pipeline Key × Registry Key :=
  (edit.apply state.1, edit.note state.1 state.2)

def run (edits : List (Edit Key)) : Pipeline Key × Registry Key :=
  edits.foldl step ({}, {})

end Edit

/-- The pipeline holds the live registrations of the registry, in running order, and
gives a new number to the next one. -/
structure Registry.Records (registry : Registry Key) (pipeline : Pipeline Key) : Prop where
  perm : pipeline.registrations.Perm registry.live
  order : pipeline.registrations.Pairwise Registration.RunsBefore
  live : registry.live.Sublist registry.made
  numbered : registry.made.Pairwise fun r s => r.id < s.id
  issued : forall r, r ∈ registry.made -> r.id < pipeline.nextId

namespace Registry

variable {registry : Registry Key} {pipeline : Pipeline Key}

theorem Records.register (h : registry.Records pipeline) (priority : Priority)
    (observer : Observer Key) :
    ((Edit.register priority observer).note pipeline registry).Records
      (pipeline.register priority observer).2 where
  perm := (Pipeline.perm_insert _ _).trans
    ((h.perm.cons _).trans (List.perm_append_singleton _ _).symm)
  order := by
    apply Pipeline.runsBefore_insert h.order
    intro r hr
    exact h.issued r (h.live.subset (h.perm.subset hr))
  live := h.live.append (List.Sublist.refl _)
  numbered := by
    apply List.pairwise_append.mpr
    refine ⟨h.numbered, List.pairwise_singleton _ _, ?_⟩
    intro r hr new hnew
    rw [List.mem_singleton.mp hnew]
    exact h.issued r hr
  issued := by
    intro r hr
    rcases List.mem_append.mp hr with hr | hr
    · exact Nat.lt_succ_of_lt (h.issued r hr)
    · rw [List.mem_singleton.mp hr]
      exact Nat.lt_succ_self _

theorem Records.unregister (h : registry.Records pipeline) (id : Nat) :
    ((Edit.unregister id).note pipeline registry).Records (pipeline.unregister id).2 where
  perm := h.perm.filter _
  order := h.order.filter _
  live := List.filter_sublist.trans h.live
  numbered := h.numbered
  issued := h.issued

theorem Records.step {state : Pipeline Key × Registry Key}
    (h : state.2.Records state.1) (edit : Edit Key) :
    (edit.step state).2.Records (edit.step state).1 := by
  cases edit with
  | register priority observer => exact h.register priority observer
  | unregister id => exact h.unregister id

theorem records_empty : ({} : Registry Key).Records {} where
  perm := List.Perm.refl _
  order := List.Pairwise.nil
  live := List.Sublist.refl _
  numbered := List.Pairwise.nil
  issued r hr := by cases hr

theorem Records.foldl {state : Pipeline Key × Registry Key}
    (h : state.2.Records state.1) (edits : List (Edit Key)) :
    (edits.foldl Edit.step state).2.Records (edits.foldl Edit.step state).1 := by
  induction edits generalizing state with
  | nil => exact h
  | cons edit rest ih => exact ih (h.step edit)

theorem records_run (edits : List (Edit Key)) :
    (Edit.run edits).2.Records (Edit.run edits).1 :=
  records_empty.foldl edits

/-!
# Taking a registration out
-/

/-- A live registration is taken out, and the others stay where they are. -/
theorem Records.unregister_of_live (h : registry.Records pipeline)
    {r : Registration Key} (hr : r ∈ registry.live) :
    exists before after, pipeline.registrations = before ++ r :: after ∧
      pipeline.unregister r.id =
        (true, { pipeline with registrations := before ++ after }) := by
  rcases List.append_of_mem (h.perm.symm.subset hr) with ⟨before, after, hregistrations⟩
  have hapart : pipeline.registrations.Pairwise fun r s => r.id ≠ s.id := by
    apply (h.perm.pairwise_iff Ne.symm).mpr
    exact (h.numbered.sublist h.live).imp Nat.ne_of_lt
  rw [hregistrations] at hapart
  rcases List.pairwise_append.mp hapart with ⟨-, hafter, hbefore⟩
  have hkeepBefore : before.filter (·.id ≠ r.id) = before := by
    apply List.filter_eq_self.mpr
    intro s hs
    exact decide_eq_true (hbefore s hs r (List.mem_cons_self ..))
  have hkeepAfter : after.filter (·.id ≠ r.id) = after := by
    apply List.filter_eq_self.mpr
    intro s hs
    exact decide_eq_true ((List.pairwise_cons.mp hafter).1 s hs).symm
  refine ⟨before, after, hregistrations, ?_⟩
  unfold Pipeline.unregister
  rw [hregistrations, List.filter_append, List.filter_cons, hkeepBefore, hkeepAfter]
  simp

theorem Records.unregister_of_forall_ne (h : registry.Records pipeline) {id : Nat}
    (hid : forall r, r ∈ registry.live -> r.id ≠ id) :
    pipeline.unregister id = (false, pipeline) := by
  have hne : forall r, r ∈ pipeline.registrations -> r.id ≠ id := by
    intro r hr
    exact hid r (h.perm.subset hr)
  have hkept : pipeline.registrations.filter (·.id ≠ id) = pipeline.registrations := by
    apply List.filter_eq_self.mpr
    intro r hr
    exact decide_eq_true (hne r hr)
  have hnone : pipeline.registrations.any (·.id = id) = false := by
    apply List.any_eq_false.mpr
    intro r hr
    simp [hne r hr]
  unfold Pipeline.unregister
  rw [hkept, hnone]

end Registry

/-!
# Telling the observers
-/

namespace Account

def isVisit : Change Key Memory -> Bool
  | .visit _ _ => true
  | _ => false

theorem isBesidesVisits_isVisit :
    Change.IsBesidesVisits (isVisit : Change Key Memory -> Bool) where
  visit change h := by
    cases change with
    | visit observer path? => cases h
    | _ => rfl
  enter _ := rfl
  leave _ := rfl

/-- The visits are to the observers in order, up to the one that has handled the load
or broken off. -/
def VisitsInOrder (path? : Option Path) (observers : List (Observer Key))
    (ending : Ending DispatchReport) (visits : List (Change Key Memory)) : Prop :=
  exists told untold, observers = told ++ untold ∧ visits = told.map (.visit · path?) ∧
    forall report, ending = .returned report ->
      report.ran = told.map Observer.name ∧ (report.handledBy = none -> untold = [])

theorem VisitsInOrder.cons {path? : Option Path} {observers : List (Observer Key)}
    {ending : Ending DispatchReport} {visits : List (Change Key Memory)}
    (h : VisitsInOrder path? observers ending visits) (observer : Observer Key) :
    VisitsInOrder path? (observer :: observers)
      (ending.map fun report => { report with ran := observer.name :: report.ran })
      (.visit observer path? :: visits) := by
  rcases h with ⟨told, untold, hobservers, hvisits, hreport⟩
  refine ⟨observer :: told, untold, ?_, ?_, ?_⟩
  · rw [hobservers]
    rfl
  · rw [hvisits]
    rfl
  · cases ending with
    | returned report =>
        rcases hreport report rfl with ⟨hran, hall⟩
        intro whole hwhole
        cases hwhole
        exact ⟨congrArg (observer.name :: ·) hran, hall⟩
    | panicked panic => intro whole hwhole; cases hwhole
    | exhausted => intro whole hwhole; cases hwhole

theorem visitsInOrder_last {path? : Option Path} {observer : Observer Key}
    {rest : List (Observer Key)} {ending : Ending DispatchReport}
    (h : forall report, ending = .returned report ->
      report = ⟨[observer.name], some observer.name⟩) :
    VisitsInOrder path? (observer :: rest) ending
      ([.visit observer path?] : List (Change Key Memory)) := by
  refine ⟨[observer], rest, rfl, rfl, ?_⟩
  intro report hreport
  rw [h report hreport]
  exact ⟨rfl, fun hnone => nomatch hnone⟩

variable (routines : Routines Key Memory)
variable {accounts : (call : Call Key) -> Account Key Memory call.Answer}

theorem visitsInOrder_visitAll (hcalls : forall call, (accounts call).IsNested)
    (path? : Option Path) (observers : List (Observer Key)) (scope : Scope)
    (host : Host Key Memory) :
    VisitsInOrder path? observers
      (visitAll routines accounts path? observers scope host).1
      (ownChanges isVisit scope
        (visitAll routines accounts path? observers scope host).2) := by
  induction observers generalizing host with
  | nil =>
      refine ⟨[], [], rfl, rfl, ?_⟩
      intro report hreport
      cases hreport
      exact ⟨rfl, fun _ => rfl⟩
  | cons observer rest ih =>
      have hidle : IsIdle isVisit (visit routines accounts path? observer) :=
        (holdsOfParts_isIdle routines isBesidesVisits_isVisit hcalls).visit path? observer
      have hmark : ([.visit observer path?] : List (Change Key Memory)).filter isVisit =
          [.visit observer path?] := rfl
      unfold visitAll
      rw [ending_tell_andThen, ownChanges_tell_andThen, hmark]
      generalize host.replay (List.map _ _) = marked
      have hvisit := hidle scope marked
      rcases hrun : visit routines accounts path? observer scope marked
        with ⟨ending, entries⟩
      rw [hrun] at hvisit
      cases ending with
      | panicked panic =>
          rw [andThen_of_panicked hrun, hvisit]
          exact visitsInOrder_last fun report hreport => nomatch hreport
      | exhausted =>
          rw [andThen_of_exhausted hrun, hvisit]
          exact visitsInOrder_last fun report hreport => nomatch hreport
      | returned disposition =>
          rw [andThen_of_returned hrun, ownChanges_append, hvisit]
          simp only [look, List.nil_append, ending_tell_andThen, ownChanges_tell_andThen]
          cases disposition with
          | handled =>
              apply visitsInOrder_last
              intro report hreport
              cases hreport
              rfl
          | passThrough =>
              simp only [andThen_map]
              exact (ih _).cons observer

theorem visitsInOrder_announce (hcalls : forall call, (accounts call).IsNested)
    (path? : Option Path) (scope : Scope) (host : Host Key Memory) :
    VisitsInOrder path? host.pipeline.observers
      (announce routines accounts path? scope host).1
      (ownChanges isVisit scope (announce routines accounts path? scope host).2) := by
  unfold announce look
  rw [ending_tell_andThen, ownChanges_tell_andThen]
  exact visitsInOrder_visitAll routines hcalls path? _ scope _

end Account

/-!
# The list after some edits
-/

/-- The pipeline is what its registry says: the live registrations in running order.
Numbers grow, and a registration is taken out by its number alone. -/
structure Registry.Describes (registry : Registry Key) (pipeline : Pipeline Key) :
    Prop where
  sorted : pipeline.registrations = Pipeline.byPriority registry.live
  live : registry.live.Sublist registry.made
  numbers : (registry.made.map (·.id)).Pairwise (· < ·)
  unused : forall r, r ∈ registry.made -> r.id < pipeline.nextId
  removed : forall r, r ∈ registry.live -> exists before after,
    pipeline.registrations = before ++ r :: after ∧
      pipeline.unregister r.id = (true, { pipeline with registrations := before ++ after })
  kept : forall id, (forall r, r ∈ registry.live -> r.id ≠ id) ->
    pipeline.unregister id = (false, pipeline)
  names : pipeline.names = (Pipeline.byPriority registry.live).map (·.observer.name)
  length : pipeline.registrations.length = registry.live.length

theorem Registry.Records.describes {registry : Registry Key} {pipeline : Pipeline Key}
    (h : registry.Records pipeline) : registry.Describes pipeline := by
  have hsorted : pipeline.registrations = Pipeline.byPriority registry.live :=
    Pipeline.eq_byPriority h.perm h.order (h.numbered.sublist h.live)
  constructor
  case sorted => exact hsorted
  case live => exact h.live
  case numbers => exact List.pairwise_map.mpr h.numbered
  case unused => exact h.issued
  case removed => exact fun r => h.unregister_of_live
  case kept => exact fun id => h.unregister_of_forall_ne
  case names =>
    rw [← hsorted]
    exact List.map_map
  case length => exact h.perm.length_eq

namespace Edit

/-- After all edits the list is sorted, and observers are told in its order. -/
theorem run_describes (edits : List (Edit Key)) :
    (run edits).2.Describes (run edits).1 ∧
    forall (routines : Routines Key Memory) (depth : Nat) (path? : Option Path)
      (scope : Scope) (host : Host Key Memory),
      let start := { host with pipeline := (run edits).1 }
      let announced := Account.announce routines (Account.perform routines depth) path?
        scope start
      Host.announce routines (Host.perform routines depth) path? start =
        (announced.1, start.replay announced.2) ∧
      Account.VisitsInOrder path?
        ((Pipeline.byPriority (run edits).2.live).map (·.observer)) announced.1
        (ownChanges Account.isVisit scope announced.2) := by
  have hdescribes := (Registry.records_run edits).describes
  refine ⟨hdescribes, ?_⟩
  intro routines depth path? scope host start announced
  constructor
  · exact Account.tells_announce routines (Account.tells_perform routines depth) path?
      scope start
  · have hvisits := Account.visitsInOrder_announce routines
      (Account.isNested_perform routines depth) path? scope start
    rw [← hdescribes.sorted]
    exact hvisits

def assorted : List (Edit Nat) :=
  [.register (.ofValue 5) (.action "first" 0), .register (.ofValue (-1)) (.action "early" 1),
    .register (.ofValue 5) (.action "second" 2), .register .reserved (.hook 0),
    .unregister 2, .unregister 2, .unregister 9, .register (.ofValue 5) (.action "third" 3),
    .unregister 1, .register (.ofValue (-1)) (.action "late" 4)]

theorem run_describes_assorted :
    (run assorted).1.names = [hookName, "late", "second", "third"] ∧
    (run assorted).2.made.map (·.id) = [1, 2, 3, 4, 5, 6] ∧
    (run assorted).2.live.map (·.id) = [3, 4, 5, 6] ∧
    (run assorted).2.Describes (run assorted).1 ∧
    (run assorted).1.unregister 2 = (false, (run assorted).1) := by
  have hlive : (run assorted).2.live.map (·.id) = [3, 4, 5, 6] := by decide +kernel
  rcases @run_describes Nat Unit assorted with ⟨hdescribes, -⟩
  refine ⟨?_, ?_, hlive, hdescribes, ?_⟩
  · decide +kernel
  · decide +kernel
  · apply hdescribes.kept
    intro r hr hid
    have hmem := List.mem_map_of_mem (f := (·.id)) hr
    rw [hlive, hid] at hmem
    revert hmem
    decide

end Edit
end CompileOnLoad
