import CompileOnLoad.Proofs.Depth
import CompileOnLoad.Proofs.NoPanic
import CompileOnLoad.Proofs.RunningOrder

/-!
# A dispatch and the list it goes through

The observers of a load are those that are registered when it is announced.  While they are
told of it, one after the other, they may edit the list and announce other loads.  The
dispatch goes on through the list as it was; the edits are found in the list that is left.
-/

namespace CompileOnLoad

variable {Key Memory : Type}

/-!
# What observers make of a load
-/

namespace Host

section

variable (routines : Routines Key Memory) (perform : Performer Key Memory)
variable (path? : Option Path)

/-- The observers are told of the load, each by the host that the one before has left, and
all let it pass. -/
inductive AllPass : List (Observer Key) -> Host Key Memory -> Host Key Memory -> Prop where
  | nil (host : Host Key Memory) : AllPass [] host host
  | cons {observer : Observer Key} {rest : List (Observer Key)}
      {host told after : Host Key Memory}
      (first : visit routines perform path? observer host = (.returned .passThrough, told))
      (later : AllPass rest (reportVisit path? observer.name .passThrough told) after) :
      AllPass (observer :: rest) host after

/-- The observers that a load is announced to, those of them that are told, and what comes
of it.  All are told if all let the load pass; else the last that is told handles it, or
breaks off. -/
inductive Dispatched (host : Host Key Memory) :
    List (Observer Key) -> List (Observer Key) -> Ending DispatchReport × Host Key Memory ->
      Prop where
  | whole {observers : List (Observer Key)} {after : Host Key Memory}
      (passed : AllPass routines perform path? observers host after) :
      Dispatched host observers observers
        (.returned { ran := observers.map Observer.name, handledBy := none }, after)
  | handled {before rest : List (Observer Key)} {last : Observer Key}
      {reached told : Host Key Memory}
      (passed : AllPass routines perform path? before host reached)
      (handles : visit routines perform path? last reached = (.returned .handled, told)) :
      Dispatched host (before ++ last :: rest) (before ++ [last])
        (.returned
            { ran := (before ++ [last]).map Observer.name, handledBy := some last.name },
          reportVisit path? last.name .handled told)
  | panicked {before rest : List (Observer Key)} {last : Observer Key}
      {reached after : Host Key Memory} {panic : Panic}
      (passed : AllPass routines perform path? before host reached)
      (panics : visit routines perform path? last reached = (.panicked panic, after)) :
      Dispatched host (before ++ last :: rest) (before ++ [last]) (.panicked panic, after)
  | exhausted {before rest : List (Observer Key)} {last : Observer Key}
      {reached after : Host Key Memory}
      (passed : AllPass routines perform path? before host reached)
      (exhausts : visit routines perform path? last reached = (.exhausted, after)) :
      Dispatched host (before ++ last :: rest) (before ++ [last]) (.exhausted, after)

end

variable {routines : Routines Key Memory} {perform : Performer Key Memory}
variable {path? : Option Path}

/-- An observer that lets the load pass is told before a dispatch to the others. -/
theorem Dispatched.cons {observer : Observer Key} {rest told : List (Observer Key)}
    {host visited : Host Key Memory} {run : Ending DispatchReport × Host Key Memory}
    (h : Dispatched routines perform path?
      (reportVisit path? observer.name .passThrough visited) rest told run)
    (hvisit : visit routines perform path? observer host =
      (.returned .passThrough, visited)) :
    Dispatched routines perform path? host (observer :: rest) (observer :: told)
      (run.1.map fun report => { report with ran := observer.name :: report.ran },
        run.2) := by
  cases h with
  | whole passed => exact .whole (.cons hvisit passed)
  | handled passed handles => exact .handled (.cons hvisit passed) handles
  | panicked passed panics => exact .panicked (.cons hvisit passed) panics
  | exhausted passed exhausts => exact .exhausted (.cons hvisit passed) exhausts

theorem dispatched_visitAll (routines : Routines Key Memory) (perform : Performer Key Memory)
    (path? : Option Path) (observers : List (Observer Key)) (host : Host Key Memory) :
    exists told, Dispatched routines perform path? host observers told
      (visitAll routines perform path? observers host) := by
  induction observers generalizing host with
  | nil => exact ⟨[], .whole (.nil host)⟩
  | cons observer rest ih =>
      rcases hvisit : visit routines perform path? observer host with ⟨ending, visited⟩
      unfold visitAll
      cases ending with
      | panicked panic =>
          rw [Act.andThen_of_panicked hvisit]
          exact ⟨[observer], .panicked (.nil host) hvisit⟩
      | exhausted =>
          rw [Act.andThen, hvisit]
          exact ⟨[observer], .exhausted (.nil host) hvisit⟩
      | returned disposition =>
          rw [Act.andThen_of_returned hvisit]
          cases disposition with
          | handled => exact ⟨[observer], .handled (.nil host) hvisit⟩
          | passThrough =>
              rcases ih (reportVisit path? observer.name .passThrough visited) with ⟨told, h⟩
              simp only [Act.andThen_map]
              exact ⟨observer :: told, h.cons hvisit⟩

theorem Dispatched.told_initial {host : Host Key Memory}
    {observers told : List (Observer Key)} {run : Ending DispatchReport × Host Key Memory}
    (h : Dispatched routines perform path? host observers told run) : told <+: observers := by
  cases h with
  | whole passed => exact List.prefix_refl _
  | handled passed handles => exact ⟨_, List.append_assoc _ _ _⟩
  | panicked passed panics => exact ⟨_, List.append_assoc _ _ _⟩
  | exhausted passed exhausts => exact ⟨_, List.append_assoc _ _ _⟩

theorem Dispatched.ran {host after : Host Key Memory} {observers told : List (Observer Key)}
    {report : DispatchReport}
    (h : Dispatched routines perform path? host observers told (.returned report, after)) :
    report.ran = told.map Observer.name := by
  cases h with
  | whole passed => rfl
  | handled passed handles => rfl

end Host

/-!
# Edits that are made on the way
-/

def Change.edit? : Change Key Memory -> Option (Edit Key)
  | .register priority observer => some (.register priority observer)
  | .unregister id => some (.unregister id)
  | _ => none

def editsIn (entries : List (Entry Key Memory)) : List (Edit Key) :=
  entries.filterMap fun entry => entry.change.edit?

theorem pipeline_apply (change : Change Key Memory) (host : Host Key Memory) :
    (change.apply host).pipeline =
      change.edit?.elim host.pipeline fun edit => edit.apply host.pipeline := by
  cases change with
  | _ => rfl

theorem pipeline_replay (host : Host Key Memory) (entries : List (Entry Key Memory)) :
    (host.replay entries).pipeline =
      (editsIn entries).foldl (fun pipeline edit => edit.apply pipeline) host.pipeline := by
  induction entries generalizing host with
  | nil => rfl
  | cons entry rest ih =>
      refine (ih (entry.change.apply host)).trans ?_
      rw [pipeline_apply, editsIn, editsIn, List.filterMap_cons]
      cases entry.change.edit? with
      | none => rfl
      | some edit => rfl

namespace Account

variable {accounts : (call : Call Key) -> Account Key Memory call.Answer}

def isEdit (change : Change Key Memory) : Bool :=
  change.edit?.isSome

theorem isBesidesVisits_isEdit :
    Change.IsBesidesVisits (isEdit : Change Key Memory -> Bool) where
  visit change h := by
    cases change with
    | register priority observer => cases h
    | unregister id => cases h
    | _ => rfl
  enter _ := rfl
  leave _ := rfl

theorem isIdle_announce (routines : Routines Key Memory)
    (hcalls : forall call, (accounts call).IsNested) (path? : Option Path) :
    IsIdle isEdit (announce routines accounts path?) := by
  have hparts := holdsOfParts_isIdle routines isBesidesVisits_isEdit hcalls
  apply isIdle_look
  intro host
  apply isIdle_andThen (isIdle_tell isEdit (by simp [isEdit, Change.edit?]))
  intro _
  apply hparts.visitAll path?
  intro observer
  exact isIdle_tell isEdit (by simp [isEdit, Change.edit?])

theorem deeper_of_edit (routines : Routines Key Memory)
    (hcalls : forall call, (accounts call).IsNested) (path? : Option Path) (scope : Scope)
    (host : Host Key Memory) {entry : Entry Key Memory}
    (hentry : entry ∈ (announce routines accounts path? scope host).2)
    (hedit : isEdit entry.change = true) : scope.routines < entry.scope.routines := by
  have hholds := ((isNested_announce routines hcalls path?) scope host).holds hentry
  apply Nat.lt_of_le_of_ne hholds.routines
  intro hsame
  have hidle := isIdle_announce routines hcalls path? scope host
  have hown : entry.change ∈ ownChanges isEdit scope
      (announce routines accounts path? scope host).2 :=
    List.mem_map_of_mem (List.mem_filter.mpr ⟨hentry, by simp [hsame, hedit]⟩)
  rw [hidle] at hown
  cases hown

/-- The visits that a dispatch makes itself are to those that are told, once and in order. -/
theorem ownVisits_announce {routines : Routines Key Memory} {perform : Performer Key Memory}
    (hcalls : forall call, (accounts call).IsNested) {path? : Option Path} (scope : Scope)
    {host after : Host Key Memory} {told : List (Observer Key)} {report : DispatchReport}
    (hdispatched : Host.Dispatched routines perform path? host host.pipeline.observers told
      (.returned report, after))
    (hending : (announce routines accounts path? scope host).1 = .returned report) :
    ownChanges isVisit scope (announce routines accounts path? scope host).2 =
      told.map (.visit · path?) := by
  rcases visitsInOrder_announce routines hcalls path? scope host
    with ⟨visited, unvisited, hobservers, hvisits, hreport⟩
  -- Both are first parts of the list, and the report has as many names as either.
  have hnames : told.map Observer.name = visited.map Observer.name :=
    hdispatched.ran.symm.trans (hreport report hending).1
  have hlength : told.length = visited.length := by
    have hlengths := congrArg List.length hnames
    rwa [List.length_map, List.length_map] at hlengths
  have htold : told = visited := by
    have hfirst : told <+: visited ++ unvisited := hobservers ▸ hdispatched.told_initial
    rw [List.prefix_iff_eq_take.mp hfirst, hlength, List.take_left]
  rw [htold]
  exact hvisits

end Account

/-- A dispatch goes through the list as it was when it began, up to the first observer that
handles the load.  The list that is left is the same list with the edits that routines of the
observers have made, in the order of these.  Nothing breaks off if no routine panics, and the
bound on how deep dispatches are nested does not matter once it is not reached. -/
theorem announce_goes_through_snapshot (routines : Routines Key Memory) (depth : Nat)
    (path? : Option Path) (scope : Scope) (host : Host Key Memory) :
    let run := Host.announce routines (Host.perform routines depth) path? host
    let entries :=
      (Account.announce routines (Account.perform routines depth) path? scope host).2
    (exists told,
      Host.Dispatched routines (Host.perform routines depth) path? host
        host.pipeline.observers
        told run ∧
      forall report, run.1 = .returned report ->
        ownChanges Account.isVisit scope entries = told.map (.visit · path?)) ∧
    run.2 = host.replay entries ∧
    run.2.pipeline =
      (editsIn entries).foldl (fun pipeline edit => edit.apply pipeline) host.pipeline ∧
    (forall entry, entry ∈ entries -> Account.isEdit entry.change = true ->
      scope.routines < entry.scope.routines) ∧
    (routines.NeverPanic -> forall panic, run.1 ≠ .panicked panic) ∧
    (run.1 ≠ .exhausted -> forall depth', depth ≤ depth' ->
      Host.announce routines (Host.perform routines depth') path? host = run) := by
  intro run entries
  have hcalls := Account.isNested_perform routines depth
  have hrun : run = ((Account.announce routines (Account.perform routines depth) path? scope
      host).1, host.replay entries) :=
    Account.tells_announce routines (Account.tells_perform routines depth) path? scope host
  refine ⟨?_, ?_, ?_, ?_, ?_, ?_⟩
  · rcases Host.dispatched_visitAll routines (Host.perform routines depth) path?
      host.pipeline.observers host with ⟨told, hdispatched⟩
    refine ⟨told, hdispatched, ?_⟩
    intro report hreport
    have hending : (Account.announce routines (Account.perform routines depth) path? scope
        host).1 = .returned report := (congrArg Prod.fst hrun).symm.trans hreport
    have hreturned : Host.Dispatched routines (Host.perform routines depth) path? host
        host.pipeline.observers told (.returned report, run.2) := by
      rw [← hreport]
      exact hdispatched
    exact Account.ownVisits_announce hcalls scope hreturned hending
  · exact congrArg Prod.snd hrun
  · rw [hrun]
    exact pipeline_replay host entries
  · intro entry hentry hedit
    exact Account.deeper_of_edit routines hcalls path? scope host hentry hedit
  · intro hnever panic
    rw [hrun]
    exact Account.neverPanics_announce hnever (Account.neverPanics_perform hnever depth) path?
      scope host panic
  · intro hended depth' hdepth
    exact Host.extends_announce routines (Host.extends_perform routines hdepth) path?
      host hended

/-- One observer edits the list, and one announces the load again, before the others are
told of it. -/
def restless : Routines Nat Bool where
  compile _ source := .done (.ok source)
  link _ := .done (.ok ())
  observe key path? :=
    match key with
    | 0 =>
        .call (.register (.ofValue 5) "late" 9) fun _ =>
          .call (.unregister 3) fun _ => .done .passThrough
    | 1 =>
        .consult fun announced =>
          if announced then .done .passThrough
          else .store true (.call (.announce path?) fun _ => .done .passThrough)
    | 3 => .done .handled
    | _ => .done .passThrough

def restlessHost : Host Nat Bool where
  memory := false
  pipeline := (Edit.run [.register (.ofValue 5) (.action "editor" 0),
    .register (.ofValue 5) (.action "repeater" 1),
    .register (.ofValue 5) (.action "removed" 2),
    .register (.ofValue 5) (.action "closer" 3), .register (.ofValue 5) (.action "rest" 4)]).1

theorem neverPanic_restless : restless.NeverPanic where
  observe key path? := by
    unfold restless
    simp only
    split
    · exact fun _ _ => trivial
    · intro announced
      cases announced with
      | true => trivial
      | false => exact fun _ => trivial
    · trivial
    · trivial
  link artifact := trivial

theorem announce_goes_through_snapshot_restless :
    let run := Host.announce restless (Host.perform restless 3) none restlessHost
    run.1 = .returned ⟨["editor", "repeater", "removed", "closer"], some "closer"⟩ ∧
    run.2.pipeline.names = ["editor", "repeater", "closer", "rest", "late", "late"] ∧
    (exists told, Host.Dispatched restless (Host.perform restless 3) none restlessHost
      restlessHost.pipeline.observers told run) ∧
    forall panic, run.1 ≠ .panicked panic := by
  intro run
  rcases announce_goes_through_snapshot restless 3 none {} restlessHost
    with ⟨⟨told, hdispatched, -⟩, -, -, -, hnever, -⟩
  refine ⟨?_, ?_, ⟨told, hdispatched⟩, hnever neverPanic_restless⟩
  · decide +kernel
  · decide +kernel

end CompileOnLoad
