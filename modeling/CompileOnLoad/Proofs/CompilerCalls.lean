import CompileOnLoad.Proofs.Pipeline
import CompileOnLoad.Proofs.Switching

/-!
# What the compiler is given

Someone who reads what was done with a host that has one interceptor in use can
tell which files its compiler was given, and in which order.  The reader has to
remember only whether the interceptor is active and what was loaded, and to judge
the files of each step by the policy and the suffixes of that step.
-/

namespace CompileOnLoad

variable {Key Memory : Type}

namespace Sighting

def compiled? : Sighting Key -> Option Path
  | compiling _ source => some source
  | _ => none

def linked? : Sighting Key -> Option Path
  | linked artifact => some artifact
  | _ => none

end Sighting

def compiledIn (sightings : List (Sighting Key)) : List Path :=
  sightings.filterMap Sighting.compiled?

def linkedIn (sightings : List (Sighting Key)) : List Path :=
  sightings.filterMap Sighting.linked?

theorem compiledIn_append (first rest : List (Sighting Key)) :
    compiledIn (first ++ rest) = compiledIn first ++ compiledIn rest :=
  List.filterMap_append

theorem linkedIn_append (first rest : List (Sighting Key)) :
    linkedIn (first ++ rest) = linkedIn first ++ linkedIn rest :=
  List.filterMap_append

theorem compiledIn_compilings (eligible : Nat -> Option Path -> Bool) (engine : Nat)
    (path? : Option Path) :
    compiledIn (compilings eligible engine path? : List (Sighting Key)) =
      path?.toList.filter fun source => eligible engine (some source) := by
  unfold compiledIn compilings
  rw [List.filterMap_map]
  exact List.filterMap_some

theorem linkedIn_compilings (eligible : Nat -> Option Path -> Bool) (engine : Nat)
    (path? : Option Path) :
    linkedIn (compilings eligible engine path? : List (Sighting Key)) = [] := by
  unfold linkedIn compilings
  rw [List.filterMap_map]
  exact List.filterMap_eq_nil_iff.mpr fun _ _ => rfl

theorem compiledIn_sweepings (eligible : Nat -> Option Path -> Bool) (engine : Nat)
    (files : List LoadedFile) :
    compiledIn (Interceptor.sweepings eligible engine files : List (Sighting Key)) =
      (files.map (·.source)).filter fun source => eligible engine (some source) := by
  induction files with
  | nil => rfl
  | cons file rest ih =>
      have hsplit :
          (Interceptor.sweepings eligible engine (file :: rest) : List (Sighting Key)) =
            compilings eligible engine (some file.source) ++
              Interceptor.sweepings eligible engine rest := rfl
      rw [hsplit, compiledIn_append, compiledIn_compilings, ih, List.map_cons,
        ← List.singleton_append, List.filter_append]
      rfl

/-!
# One load, one round
-/

def compiledBy (active : Bool) (eligible : Path -> Bool) (sources : List Path) :
    List Path :=
  if active then sources.filter eligible else []

theorem compiledBy_nil (active : Bool) (eligible : Path -> Bool) :
    compiledBy active eligible [] = [] := by
  unfold compiledBy
  split
  · rfl
  · rfl

theorem compiledBy_append (active : Bool) (eligible : Path -> Bool)
    (first rest : List Path) :
    compiledBy active eligible (first ++ rest) =
      compiledBy active eligible first ++ compiledBy active eligible rest := by
  unfold compiledBy
  split
  · exact List.filter_append _ _
  · rfl

/-- The observers with the hook of an engine, if it is active, as their only
hook. -/
def OnlyHook (active : Bool) (engine : Nat) (observers : List (Observer Key)) : Prop :=
  observers.filter Observer.isHook = if active then [.hook engine] else []

theorem OnlyHook.of_hook {active : Bool} {engine engine' : Nat}
    {rest : List (Observer Key)} (h : OnlyHook active engine (.hook engine' :: rest)) :
    active = true ∧ engine' = engine ∧ OnlyHook false engine rest := by
  unfold OnlyHook at h
  rw [List.filter_cons_of_pos rfl] at h
  cases active with
  | false => cases h
  | true =>
      injection h with hhook hrest
      injection hhook with hengine
      exact ⟨rfl, hengine, hrest⟩

namespace Passage

variable {eligible : Nat -> Option Path -> Bool} {path? : Option Path}
variable {observers : List (Observer Key)}
variable {sightings : List (Sighting Key)} {requests : List Request}

theorem linkedIn_eq (h : Passage eligible path? observers sightings requests) :
    linkedIn sightings = [] := by
  induction h with
  | nil => rfl
  | action next ih => exact ih
  | passed next ih => rw [linkedIn_append, linkedIn_compilings, ih, List.nil_append]
  | handled artifact => exact linkedIn_compilings _ _ _

theorem compiledIn_eq {active : Bool} {engine : Nat}
    (h : Passage eligible path? observers sightings requests)
    (hhook : OnlyHook active engine observers) :
    compiledIn sightings =
      compiledBy active (fun source => eligible engine (some source)) path?.toList := by
  induction h generalizing active with
  | nil =>
      cases active with
      | false => rfl
      | true => cases hhook
  | action next ih => exact ih hhook
  | passed next ih =>
      rcases hhook.of_hook with ⟨hactive, hengine, hrest⟩
      rw [compiledIn_append, compiledIn_compilings, ih hrest, hactive, hengine]
      exact List.append_nil _
  | handled artifact =>
      rcases hhook.of_hook with ⟨hactive, hengine, -⟩
      rw [compiledIn_compilings, hactive, hengine]
      rfl

end Passage

theorem Execution.compiledIn_eq {routines : Routines Key Memory}
    {eligible : Nat -> Option Path -> Bool} {observers : List (Observer Key)}
    {artifact : Path} {ending : Ending (Except LoadFailure Unit)}
    {sightings : List (Sighting Key)} {requests : List Request}
    {active : Bool} {engine : Nat}
    (h : Execution routines eligible observers artifact ending sightings requests)
    (hhook : OnlyHook active engine observers) :
    compiledIn sightings =
      compiledBy active (fun source => eligible engine (some source))
        (linkedIn sightings) := by
  cases h with
  | linked passage =>
      rename_i rest
      have hlinked : linkedIn (.linked artifact :: rest) = [artifact] :=
        congrArg (artifact :: ·) passage.linkedIn_eq
      rw [hlinked]
      exact passage.compiledIn_eq hhook
  | refused failure => exact (compiledBy_nil active _).symm
  | brokenOff breaks => exact (compiledBy_nil active _).symm

theorem Round.compiledIn_eq {routines : Routines Key Memory}
    {eligible : Nat -> Option Path -> Bool} {observers : List (Observer Key)}
    {ending : Ending RunReport} {sightings : List (Sighting Key)} {queue left : Queue}
    {active : Bool} {engine : Nat}
    (h : Round routines eligible observers ending sightings queue left)
    (hhook : OnlyHook active engine observers) :
    compiledIn sightings =
      compiledBy active (fun source => eligible engine (some source))
        (linkedIn sightings) := by
  induction h with
  | done queue => exact (compiledBy_nil active _).symm
  | next first later ih =>
      rw [compiledIn_append, linkedIn_append, compiledBy_append, ih]
      exact congrArg (· ++ _) (first.compiledIn_eq hhook)
  | brokenOff first => exact first.compiledIn_eq hhook

/-!
# Reading a run
-/

/-- Files get to engines only through hooks and sweeps, and no interceptor but
this one is switched. -/
def Operation.UsesOnly (index : Nat) : Operation Key -> Prop
  | call (.compile _ _) => False
  | call (.unregister _) => False
  | call _ => True
  | enable other => other = index
  | disable other => other = index
  | drop other => other = index
  | handle _ _ => False
  | editSuffixes _ => True

/-- What a reader of a run remembers: whether the interceptor is active, and what
was loaded, as far as it was not an artifact. -/
structure Reader where
  active : Bool := false
  loads : List Path := []

namespace Reader

/-- The files that the compiler is given in a step.  A load or an announcement
gives it the file, a round of the queue the artifacts that were linked, and
switching on the files that were loaded before, where the interceptor is active
and where the files are eligible. -/
def expects (engine : Nat) (reader : Reader) (step : Step Key Memory) : List Path :=
  let eligible := fun source => step.before.isEligible engine (some source)
  match step.operation with
  | .call (.load source) => compiledBy reader.active eligible [source]
  | .call (.announce path?) => compiledBy reader.active eligible path?.toList
  | .call .runPending => compiledBy reader.active eligible (linkedIn step.sightings)
  | .enable _ => compiledBy (!reader.active) eligible reader.loads
  | _ => []

def next (reader : Reader) : Operation Key -> Reader
  | .call (.load source) => { reader with loads := reader.loads ++ [source] }
  | .enable _ => { reader with active := true }
  | .disable _ => { reader with active := false }
  | .drop _ => { reader with active := false }
  | _ => reader

def replay (engine : Nat) : Reader -> List (Step Key Memory) -> List Path
  | _, [] => []
  | reader, step :: rest =>
      reader.expects engine step ++ (reader.next step.operation).replay engine rest

/-- What the reader remembers is so, and the hook of the interceptor is the only
one, if there is one. -/
structure Follows (index engine : Nat) (reader : Reader)
    (host : Host Key (Watched Key Memory)) : Prop where
  inRange : index < host.interceptors.length
  serves : (host.interceptor index).engine = engine
  active : (host.interceptor index).activation.isActive = reader.active
  hooks : host.pipeline.hooks =
    (host.interceptor index).activation.hook?.toList.map fun id =>
      ⟨id, Priority.reserved, .hook engine⟩
  ascending : Pipeline.Ascending host.pipeline.registrations
  loads : host.history.map (·.source) = reader.loads

/-- In a step the compiler was given what was expected, and the reader can go
on. -/
def Reads (index engine : Nat) (reader : Reader) (step : Step Key Memory) : Prop :=
  exists sightings,
    step.after.memory.seen = step.before.memory.seen ++ sightings ∧
    compiledIn sightings = reader.expects engine step ∧
    (reader.next step.operation).Follows index engine step.after

variable {index engine : Nat} {reader : Reader}
variable {host after : Host Key (Watched Key Memory)}

theorem follows_of_fresh (hfresh : host.IsFresh)
    (hindex : index < host.interceptors.length) :
    ({} : Reader).Follows index (host.interceptor index).engine host := by
  have hinactive := hfresh.activation_eq index
  constructor
  · exact hindex
  · rfl
  · rw [hinactive]
    rfl
  · rw [hinactive, hfresh.pipeline]
    rfl
  · rw [hfresh.pipeline]
    exact List.Pairwise.nil
  · rw [hfresh.history]
    rfl

namespace Follows

theorem onlyHook (h : reader.Follows index engine host) :
    OnlyHook reader.active engine host.pipeline.observers := by
  have hhooks : host.pipeline.observers.filter Observer.isHook =
      host.pipeline.hooks.map (·.observer) := List.filter_map
  unfold OnlyHook
  rw [hhooks, h.hooks, ← h.active]
  unfold Activation.isActive
  cases (host.interceptor index).activation.hook? with
  | none => rfl
  | some id => rfl

theorem of_eq (h : reader.Follows index engine host)
    (hinterceptors : after.interceptors = host.interceptors)
    (hpipeline : after.pipeline = host.pipeline)
    (hhistory : after.history = host.history) :
    reader.Follows index engine after := by
  have hinterceptor := Host.interceptor_congr hinterceptors index
  constructor
  · rw [hinterceptors]
    exact h.inRange
  · rw [hinterceptor]
    exact h.serves
  · rw [hinterceptor]
    exact h.active
  · rw [hpipeline, hinterceptor]
    exact h.hooks
  · rw [hpipeline]
    exact h.ascending
  · rw [hhistory]
    exact h.loads

theorem of_keeps {sightings : List (Sighting Key)}
    (h : reader.Follows index engine host) (hkeeps : Host.Keeps host after sightings) :
    reader.Follows index engine after :=
  h.of_eq hkeeps.interceptors hkeeps.pipeline hkeeps.history

theorem of_active {active : Bool} (h : reader.Follows index engine host)
    (hactive : reader.active = active) :
    ({ reader with active } : Reader).Follows index engine host := by
  cases hactive
  exact h

theorem register (h : reader.Follows index engine host) (priority : Priority)
    (name : String) (key : Key) :
    reader.Follows index engine (host.register priority (.action name key)).2 where
  inRange := h.inRange
  serves := h.serves
  active := h.active
  hooks := (Pipeline.hooks_register_action priority name key).trans h.hooks
  ascending := Pipeline.ascending_insert _ h.ascending
  loads := h.loads

theorem remember (h : reader.Follows index engine host) (source : Path) :
    ({ reader with loads := reader.loads ++ [source] } : Reader).Follows index engine
      (host.remember ⟨source, none⟩) where
  inRange := h.inRange
  serves := h.serves
  active := h.active
  hooks := h.hooks
  ascending := h.ascending
  loads := by
    show (host.history ++ [LoadedFile.mk source none]).map (·.source) = _
    rw [List.map_append]
    exact congrArg (· ++ [source]) h.loads

theorem install (h : reader.Follows index engine host)
    (hinactive : (host.interceptor index).activation = .inactive) :
    ({ reader with active := true } : Reader).Follows index engine
      (host.install index) := by
  have hinterceptor : (host.install index).interceptor index =
      { host.interceptor index with activation := .active host.pipeline.nextId } :=
    Host.interceptor_setActivation h.inRange _
  have hnone : host.pipeline.hooks = [] := by
    rw [h.hooks, hinactive]
    rfl
  constructor
  · rw [Host.length_interceptors_install]
    exact h.inRange
  · rw [hinterceptor]
    exact h.serves
  · rw [hinterceptor]
    rfl
  · rw [hinterceptor]
    show (Pipeline.insert _ host.pipeline.registrations).filter _ = _
    rw [Pipeline.filter_insert_of_pos rfl h.ascending]
    show Pipeline.insert _ host.pipeline.hooks = _
    rw [hnone, h.serves]
    rfl
  · exact Pipeline.ascending_insert _ h.ascending
  · exact h.loads

theorem uninstall {hook : Nat} (h : reader.Follows index engine host)
    (hactive : (host.interceptor index).activation = .active hook) :
    ({ reader with active := false } : Reader).Follows index engine
      (host.uninstall index hook) := by
  have hinterceptor : (host.uninstall index hook).interceptor index =
      { host.interceptor index with activation := .inactive } :=
    Host.interceptor_setActivation h.inRange _
  constructor
  · rw [Host.length_interceptors_uninstall]
    exact h.inRange
  · rw [hinterceptor]
    exact h.serves
  · rw [hinterceptor]
    rfl
  · rw [hinterceptor]
    show (host.pipeline.unregister hook).2.hooks = []
    rw [Pipeline.hooks_unregister, h.hooks, hactive]
    simp [Activation.hook?]
  · exact h.ascending.filter _
  · exact h.loads

end Follows

variable {routines : Routines Key Memory}

theorem reads_load (hquiet : routines.Quiet) (hpass : routines.PassOn) (depth : Nat)
    (source : Path) (h : reader.Follows index engine host) :
    reader.Reads index engine
      ((Operation.call (.load source)).step routines depth host) := by
  rcases Host.announce_moves hquiet hpass (Host.perform routines.watched depth)
    (some source) (host.remember ⟨source, none⟩)
    with ⟨report, sightings, requests, hending, hmoves, hpassage⟩
  unfold Operation.step
  rw [Operation.watch_call_of_silent routines depth (c := .load source) fun _ => rfl]
  refine ⟨sightings, hmoves.seen, ?_, (h.remember source).of_keeps hmoves.toKeeps⟩
  exact hpassage.compiledIn_eq h.onlyHook

theorem reads_announce (hquiet : routines.Quiet) (hpass : routines.PassOn)
    (depth : Nat) (path? : Option Path) (h : reader.Follows index engine host) :
    reader.Reads index engine
      ((Operation.call (.announce path?)).step routines depth host) := by
  rcases Host.announce_moves hquiet hpass (Host.perform routines.watched depth) path? host
    with ⟨report, sightings, requests, hending, hmoves, hpassage⟩
  unfold Operation.step
  rw [Operation.watch_call_of_silent routines depth (c := .announce path?) fun _ => rfl]
  refine ⟨sightings, hmoves.seen, ?_, h.of_keeps hmoves.toKeeps⟩
  exact hpassage.compiledIn_eq h.onlyHook

theorem reads_runPending (hquiet : routines.Quiet) (hpass : routines.PassOn)
    (depth : Nat) (h : reader.Follows index engine host) :
    reader.Reads index engine
      ((Operation.call .runPending).step routines depth host) := by
  rcases Host.runRequests_round hquiet hpass (Host.perform routines.watched depth)
    host.queue.length host with ⟨sightings, hround, hkeeps⟩
  unfold Operation.step
  rw [Operation.watch_call_of_silent routines depth (c := .runPending) fun _ => rfl]
  refine ⟨sightings, hkeeps.seen, ?_, h.of_keeps hkeeps⟩
  unfold expects
  simp only
  rw [Step.sightings_eq hkeeps.seen]
  exact hround.compiledIn_eq h.onlyHook

theorem reads_enable (hquiet : routines.Quiet) (depth : Nat)
    (h : reader.Follows index engine host) :
    reader.Reads index engine ((Operation.enable index).step routines depth host) := by
  cases hactivation : (host.interceptor index).activation with
  | active hook =>
      have hactive : reader.active = true := by
        rw [← h.active, hactivation]
        rfl
      have hkeeps := (Host.moves_of_sameBare
        (Interceptor.enable_of_active routines.watched
          (Host.perform routines.watched depth) hactivation).2).toKeeps
      refine ⟨[], hkeeps.seen, ?_, (h.of_keeps hkeeps).of_active hactive⟩
      unfold expects
      simp only [hactive]
      rfl
  | inactive =>
      have hinactive : reader.active = false := by
        rw [← h.active, hactivation]
        rfl
      have hinstalled := h.install hactivation
      rcases Interceptor.enable_moves hquiet (Host.perform routines.watched depth)
        hactivation
        with ⟨report, requests, hending, hmoves, hcount⟩
      refine ⟨_, hmoves.seen, ?_, hinstalled.of_keeps hmoves.toKeeps⟩
      rw [compiledIn_sweepings, h.loads, hinstalled.serves]
      unfold expects
      simp only [hinactive]
      rfl

theorem reads_disable (routines : Routines Key Memory) (depth : Nat)
    (h : reader.Follows index engine host) :
    reader.Reads index engine ((Operation.disable index).step routines depth host) := by
  cases hactivation : (host.interceptor index).activation with
  | inactive =>
      have hinactive : reader.active = false := by
        rw [← h.active, hactivation]
        rfl
      have hafter : (Interceptor.disable index host).2 = host := by
        rw [Interceptor.disable_of_inactive hactivation]
      refine ⟨[], ?_, rfl, ?_⟩
      · show (Interceptor.disable index host).2.memory.seen = _
        rw [hafter, List.append_nil]
        rfl
      · show Follows _ _ _ (Interceptor.disable index host).2
        rw [hafter]
        exact h.of_active hinactive
  | active hook =>
      have hkeeps := (Host.moves_of_sameBare
        (Interceptor.disable_of_active hactivation).2).toKeeps
      exact ⟨[], hkeeps.seen, rfl, (h.uninstall hactivation).of_keeps hkeeps⟩

theorem reads_step (hquiet : routines.Quiet) (hpass : routines.PassOn) (depth : Nat)
    {operation : Operation Key} (huses : operation.UsesOnly index)
    (h : reader.Follows index engine host) :
    reader.Reads index engine (operation.step routines depth host) := by
  cases operation with
  | call c =>
      cases c with
      | register priority name key =>
          exact ⟨[_], rfl, rfl, (h.register priority name key).of_eq rfl rfl rfl⟩
      | unregister id => exact huses.elim
      | enqueue request =>
          exact ⟨[], rfl, rfl, h.of_eq rfl rfl rfl⟩
      | editPolicy handle edit => exact ⟨[], rfl, rfl, h.of_eq rfl rfl rfl⟩
      | load source => exact reads_load hquiet hpass depth source h
      | announce path? => exact reads_announce hquiet hpass depth path? h
      | runPending => exact reads_runPending hquiet hpass depth h
      | compile other path? => exact huses.elim
  | enable other =>
      cases huses
      exact reads_enable hquiet depth h
  | disable other =>
      cases huses
      exact reads_disable routines depth h
  | drop other =>
      cases huses
      rcases reads_disable routines depth h with ⟨sightings, hseen, hcompiled, hnext⟩
      exact ⟨sightings, hseen, hcompiled, hnext⟩
  | handle other path? => exact huses.elim
  | editSuffixes edit =>
      refine ⟨[], ?_, rfl, h.of_eq rfl rfl rfl⟩
      exact (List.append_nil _).symm

theorem compiledIn_after (hquiet : routines.Quiet) (hpass : routines.PassOn)
    (depth : Nat) {operations : List (Operation Key)}
    (huses : forall operation, operation ∈ operations -> operation.UsesOnly index)
    (h : reader.Follows index engine host) :
    exists sightings,
      (Host.after routines depth operations host).memory.seen =
        host.memory.seen ++ sightings ∧
      compiledIn sightings =
        reader.replay engine (Host.steps routines depth operations host) := by
  -- the host and what the reader remembers of it change together
  induction operations generalizing reader host with
  | nil => exact ⟨[], (List.append_nil _).symm, rfl⟩
  | cons operation rest ih =>
      rcases reads_step hquiet hpass depth (huses operation (List.mem_cons_self ..)) h
        with ⟨sightings, hseen, hcompiled, hnext⟩
      have hlater : forall later, later ∈ rest -> later.UsesOnly index := by
        intro later hmem
        exact huses later (List.mem_cons_of_mem operation hmem)
      rcases ih hlater hnext with ⟨restSightings, hrestSeen, hrestCompiled⟩
      refine ⟨sightings ++ restSightings, ?_, ?_⟩
      · calc
          _ = _ ++ restSightings := hrestSeen
          _ = (host.memory.seen ++ sightings) ++ restSightings := by rw [hseen]; rfl
          _ = _ := List.append_assoc _ _ _
      · rw [compiledIn_append, hcompiled, hrestCompiled]
        rfl

/-- From a new host on, the compiler is given what the reader of the run
expects. -/
theorem compiledIn_eq_replay (hquiet : routines.Quiet) (hpass : routines.PassOn)
    (depth : Nat) (hfresh : host.IsFresh) (hindex : index < host.interceptors.length)
    {operations : List (Operation Key)}
    (huses : forall operation, operation ∈ operations -> operation.UsesOnly index) :
    compiledIn (Host.after routines depth operations host).memory.seen =
      ({} : Reader).replay (host.interceptor index).engine
        (Host.steps routines depth operations host) := by
  rcases compiledIn_after hquiet hpass depth huses (follows_of_fresh hfresh hindex)
    with ⟨sightings, hseen, hcompiled⟩
  rw [hseen, hfresh.seen]
  exact hcompiled

/-- A file is loaded before the interceptor is switched on, which is done twice,
and another after; one of them is excluded before the next sweep. -/
def sweepSession : List (Operation Nat) :=
  [.call (.load (Path.ofString "a.el")), .enable 0, .enable 0,
    .call (.load (Path.ofString "b.el")), .call (.announce none), .call .runPending,
    .disable 0, .call (.load (Path.ofString "c.el")),
    .call (.editPolicy 0 (·.push (.exactly (Path.ofString "a.el")))), .enable 0]

theorem usesOnly_sweepSession (operation : Operation Nat)
    (hmem : operation ∈ sweepSession) : operation.UsesOnly 0 := by
  simp only [sweepSession, List.mem_cons, List.not_mem_nil, or_false] at hmem
  rcases hmem with rfl | rfl | rfl | rfl | rfl | rfl | rfl | rfl | rfl | rfl
  all_goals trivial

theorem compiledIn_eq_replay_sweepSession :
    compiledIn (Host.after .plain 0 sweepSession
        (Host.single Policy.empty [".el"])).memory.seen =
      ({} : Reader).replay ((Host.single Policy.empty [".el"]).interceptor 0).engine
        (Host.steps .plain 0 sweepSession (Host.single Policy.empty [".el"])) ∧
    compiledIn (Host.after .plain 0 sweepSession
        (Host.single Policy.empty [".el"])).memory.seen =
      ["a.el", "b.el", "a.el", "b.el", "b.el", "c.el"].map Path.ofString := by
  constructor
  · exact compiledIn_eq_replay Routines.quiet_plain Routines.passOn_plain 0
      (Host.isFresh_single _ _) Nat.zero_lt_one usesOnly_sweepSession
  · decide +kernel

end Reader
end CompileOnLoad
