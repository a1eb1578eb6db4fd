import CompileOnLoad.Proofs.Pipeline
import CompileOnLoad.Proofs.Switching

/-!
# Completion of loads

An action that stays registered completes each load once.  A load that a hook
takes over is a request instead, the request is announced when its artifact is
linked, and then the action is visited or a hook takes over again.  So the visits
of the action, the requests that wait and the requests that failed add up to the
loads, the files that were compiled outside of loads and the requests of the host
itself.
-/

namespace CompileOnLoad

variable {Key Memory : Type} [DecidableEq Key]

def Observer.hasKey (key : Key) : Observer Key -> Bool
  | hook _ => false
  | action _ other => other = key

def Sighting.isVisitOf (key : Key) : Sighting Key -> Bool
  | visited other _ => other = key
  | _ => false

def visitsIn (key : Key) (sightings : List (Sighting Key)) : Nat :=
  sightings.countP (Sighting.isVisitOf key)

theorem visitsIn_nil (key : Key) : visitsIn key [] = 0 := rfl

theorem visitsIn_append (key : Key) (first rest : List (Sighting Key)) :
    visitsIn key (first ++ rest) = visitsIn key first + visitsIn key rest :=
  List.countP_append

theorem visitsIn_compilings (key : Key) (eligible : Nat -> Option Path -> Bool)
    (engine : Nat) (path? : Option Path) :
    visitsIn key (compilings eligible engine path?) = 0 := by
  unfold visitsIn compilings
  rw [List.countP_eq_zero]
  intro sighting hmem
  rcases List.mem_map.mp hmem with ⟨source, -, hsource⟩
  rw [← hsource]
  exact Bool.false_ne_true

theorem visitsIn_sweepings (key : Key) (eligible : Nat -> Option Path -> Bool)
    (engine : Nat) (files : List LoadedFile) :
    visitsIn key (Interceptor.sweepings eligible engine files) = 0 := by
  induction files with
  | nil => rfl
  | cons file rest ih =>
      have hsplit :
          (Interceptor.sweepings eligible engine (file :: rest) : List (Sighting Key)) =
            compilings eligible engine (some file.source) ++
              Interceptor.sweepings eligible engine rest := rfl
      rw [hsplit, visitsIn_append, visitsIn_compilings, ih]

/-!
# One load, one round
-/

def HooksLead (observers : List (Observer Key)) : Prop :=
  observers.Pairwise fun o o' => o'.isHook = true -> o.isHook = true

namespace Passage

variable {eligible : Nat -> Option Path -> Bool} {path? : Option Path}
variable {observers : List (Observer Key)}
variable {sightings : List (Sighting Key)} {requests : List Request}

theorem visits_of_actions (key : Key)
    (h : Passage eligible path? observers sightings requests)
    (hactions : forall o, o ∈ observers -> o.isHook = false) :
    visitsIn key sightings = observers.countP (Observer.hasKey key) ∧
      requests = [] := by
  induction h with
  | nil => exact ⟨rfl, rfl⟩
  | action next ih =>
      rcases ih (fun o ho => hactions o (List.mem_cons_of_mem _ ho))
        with ⟨hvisits, hrequests⟩
      refine ⟨?_, hrequests⟩
      unfold visitsIn at hvisits ⊢
      rw [List.countP_cons, List.countP_cons, hvisits]
      rfl
  | passed next ih => cases hactions _ (List.mem_cons_self ..)
  | handled artifact => cases hactions _ (List.mem_cons_self ..)

/-- A load is completed by the one action with the key, or becomes a request. -/
theorem completes {key : Key}
    (h : Passage eligible path? observers sightings requests)
    (hlead : HooksLead observers)
    (hone : observers.countP (Observer.hasKey key) = 1) :
    visitsIn key sightings + requests.length = 1 := by
  induction h with
  | nil => cases hone
  | action next ih =>
      rename_i name other rest sightings requests
      have hactions : forall o, o ∈ rest -> o.isHook = false := by
        intro o ho
        cases hkind : o.isHook with
        | false => rfl
        | true => cases (List.pairwise_cons.mp hlead).1 o ho hkind
      rcases next.visits_of_actions key hactions with ⟨hvisits, hrequests⟩
      rw [List.countP_cons] at hone
      unfold visitsIn at hvisits ⊢
      rw [List.countP_cons, hvisits, hrequests]
      exact hone
  | passed next ih =>
      have hrest := ih (List.pairwise_cons.mp hlead).2 hone
      rw [visitsIn_append, visitsIn_compilings, Nat.zero_add]
      exact hrest
  | handled artifact => rw [visitsIn_compilings]; rfl

end Passage

def failures : Except LoadFailure Unit -> Nat
  | .ok _ => 0
  | .error _ => 1

theorem length_failed_note (artifact : Path) (result : Except LoadFailure Unit)
    (report : RunReport) :
    (report.note artifact result).failed.length =
      failures result + report.failed.length := by
  cases result with
  | ok _ => exact (Nat.zero_add _).symm
  | error failure => exact Nat.add_comm _ _

variable {routines : Routines Key Memory} {eligible : Nat -> Option Path -> Bool}
variable {observers : List (Observer Key)} {sightings : List (Sighting Key)}

theorem Execution.completes {key : Key} {artifact : Path}
    {result : Except LoadFailure Unit} {requests : List Request}
    (h : Execution routines eligible observers artifact (.returned result)
      sightings requests)
    (hlead : HooksLead observers)
    (hone : observers.countP (Observer.hasKey key) = 1) :
    visitsIn key sightings + requests.length + failures result = 1 := by
  cases h with
  | linked passage => exact passage.completes hlead hone
  | refused failure => rfl

theorem Round.completes {key : Key} {ending : Ending RunReport} {queue left : Queue}
    {report : RunReport}
    (h : Round routines eligible observers ending sightings queue left)
    (hreturned : ending = .returned report) (hlead : HooksLead observers)
    (hone : observers.countP (Observer.hasKey key) = 1) :
    visitsIn key sightings + left.length + report.failed.length = queue.length := by
  induction h generalizing report with
  | done queue =>
      cases hreturned
      exact Nat.zero_add _
  | next first later ih =>
      rename_i request result ending sightings rest requests queue left
      have hfirst := first.completes hlead hone
      cases ending with
      | returned later =>
          have hcount := ih rfl
          cases hreturned
          rw [length_failed_note, visitsIn_append, List.length_cons]
          rw [List.length_append] at hcount
          omega
      | panicked panic => cases hreturned
      | exhausted => cases hreturned
  | brokenOff first => cases hreturned

/-!
# The one action
-/

/-- The registrations with the key are the kept ones, the pipeline is in order, and
no interceptor takes a kept registration for its hook. -/
structure Host.Attends (key : Key) (kept : List (Registration Key))
    (host : Host Key (Watched Key Memory)) : Prop where
  ordered : host.pipeline.IsOrdered
  keeps : host.pipeline.registrations.filter (·.observer.hasKey key) = kept
  issued : forall index hook,
    (host.interceptor index).activation = .active hook -> hook < host.pipeline.nextId
  apart : forall index r, r ∈ kept ->
    (host.interceptor index).activation ≠ .active r.id

namespace Host.Attends

variable {key : Key} {kept : List (Registration Key)}
variable {host after : Host Key (Watched Key Memory)}

theorem hooksLead (h : host.Attends key kept) : HooksLead host.pipeline.observers :=
  List.pairwise_map.mpr h.ordered.hooks_lead

theorem countP_observers (h : host.Attends key kept) :
    host.pipeline.observers.countP (Observer.hasKey key) = kept.length := by
  unfold Pipeline.observers
  rw [List.countP_map, List.countP_eq_length_filter]
  exact congrArg List.length h.keeps

theorem of_eq (h : host.Attends key kept)
    (hinterceptors : after.interceptors = host.interceptors)
    (hpipeline : after.pipeline = host.pipeline) : after.Attends key kept := by
  have hinterceptor := interceptor_congr hinterceptors
  constructor
  · rw [hpipeline]
    exact h.ordered
  · rw [hpipeline]
    exact h.keeps
  · intro index hook
    rw [hinterceptor, hpipeline]
    exact h.issued index hook
  · intro index r hr
    rw [hinterceptor]
    exact h.apart index r hr

theorem of_keeps (h : host.Attends key kept) (hkeeps : Host.Keeps host after sightings) :
    after.Attends key kept :=
  h.of_eq hkeeps.interceptors hkeeps.pipeline

theorem register (h : host.Attends key kept) (value : Int32) (name : String)
    {other : Key} (hother : other ≠ key) :
    (host.register (Priority.ofValue value) (.action name other)).2.Attends key kept where
  ordered := h.ordered.register_action value name other
  keeps := by
    refine Eq.trans ?_ h.keeps
    apply Pipeline.filter_insert_of_neg
    exact decide_eq_false hother
  issued index hook hactive := Nat.lt_succ_of_lt (h.issued index hook hactive)
  apart := h.apart

theorem register_key (h : host.Attends key []) (value : Int32) (name : String) :
    (host.register (Priority.ofValue value) (.action name key)).2.Attends key
      [⟨host.pipeline.nextId, Priority.ofValue value, .action name key⟩] where
  ordered := h.ordered.register_action value name key
  keeps := by
    have hinsert : (host.register (Priority.ofValue value)
        (.action name key)).2.pipeline.registrations.filter (·.observer.hasKey key) =
        Pipeline.insert _ (host.pipeline.registrations.filter (·.observer.hasKey key)) :=
      Pipeline.filter_insert_of_pos (decide_eq_true rfl) h.ordered.ascending
    rw [hinsert, h.keeps]
    rfl
  issued index hook hactive := Nat.lt_succ_of_lt (h.issued index hook hactive)
  apart := by
    intro index r hr hactive
    rw [List.mem_singleton.mp hr] at hactive
    exact Nat.lt_irrefl _ (h.issued index _ hactive)

theorem unregister (h : host.Attends key kept) {id : Nat}
    (hid : id ∉ kept.map (·.id)) : (host.unregister id).2.Attends key kept where
  ordered := h.ordered.unregister id
  keeps := by
    have hfilter : (host.unregister id).2.pipeline.registrations.filter
        (·.observer.hasKey key) = kept.filter (·.id ≠ id) := by
      rw [← h.keeps]
      unfold Host.unregister Pipeline.unregister
      simp only [List.filter_filter, Bool.and_comm]
    rw [hfilter, List.filter_eq_self]
    intro r hr
    apply decide_eq_true
    intro heq
    exact hid (heq ▸ List.mem_map_of_mem hr)
  issued := h.issued
  apart := h.apart

theorem install (h : host.Attends key kept) (index : Nat) :
    (host.install index).Attends key kept where
  ordered := h.ordered.register_hook _
  keeps := (Pipeline.filter_insert_of_neg rfl _).trans h.keeps
  issued := by
    intro other hook hactive
    rcases Host.activation_setActivation (host.register Priority.reserved
      (.hook (host.interceptor index).engine)).2 index other
      (.active host.pipeline.nextId) with hnew | hold
    · cases hnew.symm.trans hactive
      exact Nat.lt_succ_self _
    · exact Nat.lt_succ_of_lt (h.issued other hook (hold ▸ hactive))
  apart := by
    intro other r hr hactive
    rcases Host.activation_setActivation (host.register Priority.reserved
      (.hook (host.interceptor index).engine)).2 index other
      (.active host.pipeline.nextId) with hnew | hold
    · -- the number of the new hook is not that of a kept registration
      have hid : host.pipeline.nextId = r.id :=
        Activation.active.inj (hnew.symm.trans hactive)
      rw [← h.keeps] at hr
      have hless := h.ordered.issued r (List.mem_filter.mp hr).1
      omega
    · exact h.apart other r hr (hold ▸ hactive)

theorem uninstall (h : host.Attends key kept) {index hook : Nat}
    (hactive : (host.interceptor index).activation = .active hook) :
    (host.uninstall index hook).Attends key kept := by
  have hinactive : (host.setActivation index .inactive).Attends key kept := by
    refine ⟨h.ordered, h.keeps, ?_, ?_⟩
    · intro other hook' hactive'
      rcases Host.activation_setActivation host index other .inactive with hnew | hold
      · cases hnew.symm.trans hactive'
      · exact h.issued other hook' (hold ▸ hactive')
    · intro other r hr hactive'
      rcases Host.activation_setActivation host index other .inactive with hnew | hold
      · cases hnew.symm.trans hactive'
      · exact h.apart other r hr (hold ▸ hactive')
  apply hinactive.unregister
  intro hmem
  rcases List.mem_map.mp hmem with ⟨r, hr, hid⟩
  apply h.apart index r hr
  rw [hid]
  exact hactive

end Host.Attends

/-!
# Counting
-/

namespace Operation

/-- The operation registers no action with the key and takes out none of the
registrations with these numbers. -/
def Spares (key : Key) (ids : List Nat) : Operation Key -> Prop
  | call (.register _ _ other) => other ≠ key
  | call (.unregister id) => id ∉ ids
  | _ => True

omit [DecidableEq Key]

/-- The loads that an operation announces, apart from those of the queue. -/
def dispatched : (operation : Operation Key) -> operation.Answer -> Nat
  | call (.load _), _ => 1
  | call (.announce _), _ => 1
  | _, _ => 0

/-- The files that an operation has compiled outside of loads, by a sweep or
directly. -/
def compiled : (operation : Operation Key) -> operation.Answer -> Nat
  | call (.compile _ _), outcome => if Outcome.isCompiled outcome then 1 else 0
  | enable _, some report => report.tally.compiled
  | handle _ _, .handled => 1
  | _, _ => 0

/-- The loads that an operation asks for, to be done when the host has time. -/
def requested : (operation : Operation Key) -> operation.Answer -> Nat
  | call (.enqueue _), _ => 1
  | _, _ => 0

def failed : (operation : Operation Key) -> operation.Answer -> Nat
  | call .runPending, report => (RunReport.failed report).length
  | _, _ => 0

end Operation

omit [DecidableEq Key] in
theorem length_requests (outcome : Outcome) :
    outcome.requests.length = if outcome.isCompiled then 1 else 0 := by
  cases outcome with
  | skipped => rfl
  | compiled artifact => rfl
  | failed failure => rfl

omit [DecidableEq Key] in
theorem length_add (queue : Queue) (request : Request) :
    (queue.add request).length = queue.length + 1 := by
  unfold Queue.add
  cases request.urgency with
  | immediate => rfl
  | deferred => exact List.length_append

/-- A step that returns and keeps the action.  If there is one such action, then
what comes in with the step is completed, waits or has failed after it. -/
def Step.Balances (key : Key) (kept : List (Registration Key))
    (step : Step Key Memory) : Prop :=
  exists answer, step.ending = .returned answer ∧ step.after.Attends key kept ∧
    (kept.length = 1 ->
      visitsIn key step.after.memory.seen + step.after.queue.length +
          step.operation.failed answer =
        visitsIn key step.before.memory.seen + step.before.queue.length +
          (step.operation.dispatched answer + step.operation.compiled answer +
            step.operation.requested answer))

namespace Step

variable {key : Key} {kept : List (Registration Key)}
variable {host after : Host Key (Watched Key Memory)}

omit [DecidableEq Key] in
theorem length_queue (hmoves : Host.Moves host after sightings requests) :
    after.queue.length = host.queue.length + requests.length := by
  rw [hmoves.queue, List.length_append]

theorem visitsIn_seen (key : Key) (hkeeps : Host.Keeps host after sightings) :
    visitsIn key after.memory.seen =
      visitsIn key host.memory.seen + visitsIn key sightings := by
  rw [hkeeps.seen, visitsIn_append]

theorem balances_announced {path? : Option Path} (h : host.Attends key kept)
    (hmoves : Host.Moves host after sightings requests)
    (hpassage : Passage host.isEligible path? host.pipeline.observers sightings requests)
    (hkept : kept.length = 1) :
    visitsIn key after.memory.seen + after.queue.length =
      visitsIn key host.memory.seen + host.queue.length + 1 := by
  have hone := hpassage.completes h.hooksLead (h.countP_observers.trans hkept)
  rw [visitsIn_seen key hmoves.toKeeps, length_queue hmoves]
  omega

/-- A round completes what waited, but for what has failed or waits again. -/
theorem balances_round {report : RunReport} (h : host.Attends key kept)
    (hkeeps : Host.Keeps host after sightings)
    (hround : Round routines host.isEligible host.pipeline.observers (.returned report)
      sightings host.queue after.queue)
    (hkept : kept.length = 1) :
    visitsIn key after.memory.seen + after.queue.length + report.failed.length =
      visitsIn key host.memory.seen + host.queue.length := by
  have hcount := hround.completes rfl h.hooksLead (h.countP_observers.trans hkept)
  rw [visitsIn_seen key hkeeps]
  omega

theorem balances_compiled {compiled : Nat}
    (hmoves : Host.Moves host after sightings requests)
    (hvisits : visitsIn key sightings = 0) (hcompiled : requests.length = compiled) :
    visitsIn key after.memory.seen + after.queue.length =
      visitsIn key host.memory.seen + host.queue.length + compiled := by
  rw [visitsIn_seen key hmoves.toKeeps, length_queue hmoves, hvisits, hcompiled]
  omega

theorem balances_load (hquiet : routines.Quiet) (hpass : routines.PassOn) (depth : Nat)
    (source : Path) (h : host.Attends key kept) :
    Balances key kept ((Operation.call (.load source)).step routines depth host) := by
  have hremembered : (host.remember ⟨source, none⟩).Attends key kept := h.of_eq rfl rfl
  rcases Host.announce_moves hquiet hpass (Host.perform routines.watched depth)
    (some source) (host.remember ⟨source, none⟩)
    with ⟨report, sightings, requests, hending, hmoves, hpassage⟩
  unfold Operation.step
  rw [Operation.watch_call_of_silent routines depth (c := .load source) fun _ => rfl]
  refine ⟨report, hending, hremembered.of_keeps hmoves.toKeeps, ?_⟩
  intro hkept
  have hcount := balances_announced hremembered hmoves hpassage hkept
  exact hcount

theorem balances_announce (hquiet : routines.Quiet) (hpass : routines.PassOn)
    (depth : Nat) (path? : Option Path) (h : host.Attends key kept) :
    Balances key kept ((Operation.call (.announce path?)).step routines depth host) := by
  rcases Host.announce_moves hquiet hpass (Host.perform routines.watched depth) path? host
    with ⟨report, sightings, requests, hending, hmoves, hpassage⟩
  unfold Operation.step
  rw [Operation.watch_call_of_silent routines depth (c := .announce path?) fun _ => rfl]
  refine ⟨report, hending, h.of_keeps hmoves.toKeeps, ?_⟩
  exact balances_announced h hmoves hpassage

theorem balances_runPending (hquiet : routines.Quiet) (hpass : routines.PassOn)
    (hlinker : routines.LinkerAnswers) (depth : Nat) (h : host.Attends key kept) :
    Balances key kept ((Operation.call .runPending).step routines depth host) := by
  rcases Host.runRequests_round hquiet hpass (Host.perform routines.watched depth)
    host.queue.length host with ⟨sightings, hround, hkeeps⟩
  unfold Operation.step
  rw [Operation.watch_call_of_silent routines depth (c := .runPending) fun _ => rfl]
  rcases hround.returns hlinker with ⟨report, hending⟩
  rw [hending] at hround
  refine ⟨report, hending, h.of_keeps hkeeps, ?_⟩
  intro hkept
  have hcount := balances_round h hkeeps hround hkept
  exact hcount

theorem balances_compile (hquiet : routines.Quiet) (depth engine : Nat)
    (path? : Option Path) (h : host.Attends key kept) :
    Balances key kept
      ((Operation.call (.compile engine path?)).step routines depth host) := by
  rcases Engine.compile_moves hquiet (Host.perform routines.watched depth) engine path?
    host with ⟨outcome, hending, hmoves⟩
  unfold Operation.step
  rw [Operation.watch_call_of_silent routines depth (c := .compile engine path?)
    fun _ => rfl]
  refine ⟨outcome, hending, h.of_keeps hmoves.toKeeps, ?_⟩
  intro _
  have hcount := balances_compiled hmoves (visitsIn_compilings key _ _ _)
    ((length_requests outcome).trans (Nat.zero_add _).symm)
  exact hcount

theorem balances_handle (hquiet : routines.Quiet) (depth index : Nat)
    (path? : Option Path) (h : host.Attends key kept) :
    Balances key kept ((Operation.handle index path?).step routines depth host) := by
  rcases Engine.compile_moves hquiet (Host.perform routines.watched depth)
    (host.interceptor index).engine path? host with ⟨outcome, hending, hmoves⟩
  have hwatch : (Operation.handle index path?).watch routines depth host =
      (.returned outcome.disposition, (Engine.compile routines.watched
        (Host.perform routines.watched depth) (host.interceptor index).engine path?
        host).2) :=
    Act.andThen_of_returned (Prod.ext hending rfl)
  unfold Operation.step
  rw [hwatch]
  refine ⟨outcome.disposition, rfl, h.of_keeps hmoves.toKeeps, ?_⟩
  intro _
  have hcount := balances_compiled hmoves (visitsIn_compilings key _ _ _) rfl
  cases outcome with
  | skipped => exact hcount
  | compiled artifact => exact hcount
  | failed failure => exact hcount

theorem balances_enable (hquiet : routines.Quiet) (depth index : Nat)
    (h : host.Attends key kept) :
    Balances key kept ((Operation.enable index).step routines depth host) := by
  cases hactivation : (host.interceptor index).activation with
  | active hook =>
      rcases Interceptor.enable_of_active routines.watched
        (Host.perform routines.watched depth) hactivation with ⟨hending, hsame⟩
      have hmoves := Host.moves_of_sameBare hsame
      refine ⟨none, hending, h.of_keeps hmoves.toKeeps, ?_⟩
      intro _
      have hcount := balances_compiled hmoves (visitsIn_nil key) rfl
      exact hcount
  | inactive =>
      rcases Interceptor.enable_moves hquiet (Host.perform routines.watched depth)
        hactivation with ⟨report, requests, hending, hmoves, hcompiled⟩
      refine ⟨some report, hending, (h.install index).of_keeps hmoves.toKeeps, ?_⟩
      intro _
      have hcount := balances_compiled hmoves (visitsIn_sweepings key _ _ _)
        (hcompiled.symm.trans (Nat.zero_add _).symm)
      exact hcount

theorem disable_attends (index : Nat) (h : host.Attends key kept) :
    (Interceptor.disable index host).2.Attends key kept ∧
      (Interceptor.disable index host).2.memory.seen = host.memory.seen ∧
      (Interceptor.disable index host).2.queue = host.queue := by
  cases hactivation : (host.interceptor index).activation with
  | inactive =>
      rw [Interceptor.disable_of_inactive hactivation]
      exact ⟨h, rfl, rfl⟩
  | active hook =>
      have hmoves := Host.moves_of_sameBare (Interceptor.disable_of_active hactivation).2
      refine ⟨(h.uninstall hactivation).of_keeps hmoves.toKeeps, ?_, ?_⟩
      · rw [hmoves.seen, List.append_nil]
        rfl
      · rw [hmoves.queue, List.append_nil]
        rfl

theorem balances_at_once {operation : Operation Key} {answer : operation.Answer}
    (hattends : after.Attends key kept)
    (hseen : visitsIn key after.memory.seen = visitsIn key host.memory.seen)
    (hqueue : after.queue.length = host.queue.length)
    (hnone : operation.failed answer = 0 ∧ operation.dispatched answer = 0 ∧
      operation.compiled answer = 0 ∧ operation.requested answer = 0) :
    Balances key kept ⟨operation, host, .returned answer, after⟩ := by
  rcases hnone with ⟨hfailed, hdispatched, hcompiled, hrequested⟩
  refine ⟨answer, rfl, hattends, ?_⟩
  intro _
  show visitsIn key after.memory.seen + after.queue.length + operation.failed answer =
    visitsIn key host.memory.seen + host.queue.length +
      (operation.dispatched answer + operation.compiled answer +
        operation.requested answer)
  rw [hfailed, hdispatched, hcompiled, hrequested, hseen, hqueue]

theorem balances_step (hquiet : routines.Quiet) (hpass : routines.PassOn)
    (hlinker : routines.LinkerAnswers) (depth : Nat) {operation : Operation Key}
    (hlawful : operation.IsLawful) (hspares : operation.Spares key (kept.map (·.id)))
    (h : host.Attends key kept) :
    Balances key kept (operation.step routines depth host) := by
  cases operation with
  | call c =>
      cases c with
      | register priority name other =>
          rcases hlawful with ⟨value, hvalue⟩
          cases hvalue
          have hregistered := h.register value name hspares
          refine balances_at_once (hregistered.of_eq rfl rfl) ?_ rfl ⟨rfl, rfl, rfl, rfl⟩
          exact visitsIn_append key host.memory.seen _
      | unregister id =>
          have hremoved := h.unregister hspares
          refine balances_at_once (hremoved.of_eq rfl rfl) ?_ rfl ⟨rfl, rfl, rfl, rfl⟩
          exact visitsIn_append key host.memory.seen _
      | enqueue request =>
          refine ⟨(), rfl, h.of_eq rfl rfl, ?_⟩
          intro _
          have hseen := visitsIn_append key host.memory.seen []
          have hcount := congr (congrArg HAdd.hAdd hseen) (length_add host.queue request)
          exact hcount
      | editPolicy handle edit =>
          refine balances_at_once (h.of_eq rfl rfl) ?_ rfl ⟨rfl, rfl, rfl, rfl⟩
          exact visitsIn_append key host.memory.seen _
      | load source => exact balances_load hquiet hpass depth source h
      | announce path? => exact balances_announce hquiet hpass depth path? h
      | runPending => exact balances_runPending hquiet hpass hlinker depth h
      | compile engine path? => exact balances_compile hquiet depth engine path? h
  | enable index => exact balances_enable hquiet depth index h
  | disable index =>
      rcases disable_attends index h with ⟨hattends, hseen, hqueue⟩
      exact balances_at_once hattends (congrArg _ hseen) (congrArg _ hqueue)
        ⟨rfl, rfl, rfl, rfl⟩
  | drop index =>
      rcases disable_attends index h with ⟨hattends, hseen, hqueue⟩
      exact balances_at_once hattends (congrArg _ hseen) (congrArg _ hqueue)
        ⟨rfl, rfl, rfl, rfl⟩
  | handle index path? => exact balances_handle hquiet depth index path? h
  | editSuffixes edit =>
      exact balances_at_once (h.of_eq rfl rfl) rfl rfl ⟨rfl, rfl, rfl, rfl⟩

end Step

/-!
# Runs
-/

omit [DecidableEq Key] in
def Step.measure (count : (operation : Operation Key) -> operation.Answer -> Nat)
    (step : Step Key Memory) : Nat :=
  match step.ending with
  | .returned answer => count step.operation answer
  | _ => 0

omit [DecidableEq Key] in
def total (count : (operation : Operation Key) -> operation.Answer -> Nat)
    (steps : List (Step Key Memory)) : Nat :=
  steps.foldr (fun step measured => step.measure count + measured) 0

omit [DecidableEq Key] in
theorem total_cons (count : (operation : Operation Key) -> operation.Answer -> Nat)
    (step : Step Key Memory) (steps : List (Step Key Memory)) :
    total count (step :: steps) = step.measure count + total count steps :=
  rfl

namespace Host

variable {key : Key} {kept : List (Registration Key)}
variable {host : Host Key (Watched Key Memory)}

/-- A run returns from every step, keeps the actions with the key, and completes
what comes in if there is one such action. -/
theorem run_balances (hquiet : routines.Quiet) (hpass : routines.PassOn)
    (hlinker : routines.LinkerAnswers) (depth : Nat) {operations : List (Operation Key)}
    (hoperations : forall operation, operation ∈ operations ->
      operation.IsLawful ∧ operation.Spares key (kept.map (·.id)))
    (h : host.Attends key kept) :
    (after routines depth operations host).Attends key kept ∧
    (forall step, step ∈ steps routines depth operations host ->
      exists answer, step.ending = .returned answer) ∧
    (kept.length = 1 ->
      visitsIn key (after routines depth operations host).memory.seen +
          (after routines depth operations host).queue.length +
          total Operation.failed (steps routines depth operations host) =
        visitsIn key host.memory.seen + host.queue.length +
          (total Operation.dispatched (steps routines depth operations host) +
            total Operation.compiled (steps routines depth operations host) +
            total Operation.requested (steps routines depth operations host))) := by
  induction operations generalizing host with
  | nil =>
      refine ⟨h, ?_, ?_⟩
      · intro step hmem
        cases hmem
      · intro _
        rfl
  | cons operation rest ih =>
      rcases hoperations operation (List.mem_cons_self ..) with ⟨hlawful, hspares⟩
      rcases Step.balances_step hquiet hpass hlinker depth hlawful hspares h
        with ⟨answer, hending, hattends, hcount⟩
      have hlater : forall later, later ∈ rest ->
          later.IsLawful ∧ later.Spares key (kept.map (·.id)) := by
        intro later hmem
        exact hoperations later (List.mem_cons_of_mem operation hmem)
      rcases ih hlater hattends with ⟨hafter, hreturned, hrest⟩
      have hmeasure : forall count, (operation.step routines depth host).measure count =
          count operation answer := by
        intro count
        unfold Step.measure
        rw [hending]
        rfl
      refine ⟨hafter, ?_, ?_⟩
      · intro step hmem
        rcases List.mem_cons.mp hmem with hmem | hmem
        · rw [hmem]
          exact ⟨answer, hending⟩
        · exact hreturned step hmem
      · intro hkept
        -- the counts of the first step and of the rest add up
        have hfirst : visitsIn key (operation.step routines depth host).after.memory.seen +
              (operation.step routines depth host).after.queue.length +
              operation.failed answer =
            visitsIn key host.memory.seen + host.queue.length +
              (operation.dispatched answer + operation.compiled answer +
                operation.requested answer) := hcount hkept
        have hthen := hrest hkept
        have hsteps : steps routines depth (operation :: rest) host =
            operation.step routines depth host ::
              steps routines depth rest (operation.step routines depth host).after := rfl
        have hend : after routines depth (operation :: rest) host =
            after routines depth rest (operation.step routines depth host).after := rfl
        rw [hsteps, hend]
        simp only [total_cons, hmeasure]
        omega

theorem attends_of_fresh (hfresh : host.IsFresh) (key : Key) :
    host.Attends key [] := by
  constructor
  · rw [hfresh.pipeline]
    exact Pipeline.isOrdered_empty
  · rw [hfresh.pipeline]
    rfl
  · intro index hook hactive
    rw [hfresh.activation_eq index] at hactive
    cases hactive
  · intro index r hr
    cases hr

/-- An action is registered before a run and stays.  The run returns from all its
operations.  After it the visits of the action, the requests that wait and those
that have failed are, besides what there was of them before, the loads that were
announced, the files that were compiled outside of loads, and the requests of the
host. -/
theorem visits_add_waiting_add_failed (hquiet : routines.Quiet)
    (hpass : routines.PassOn) (hlinker : routines.LinkerAnswers) (depth : Nat)
    (hfresh : host.IsFresh) (value : Int32) (name : String)
    {setup operations : List (Operation Key)}
    (hsetup : forall operation, operation ∈ setup ->
      operation.IsLawful ∧ operation.Spares key [])
    (hoperations : forall operation, operation ∈ operations ->
      operation.IsLawful ∧
        operation.Spares key [(after routines depth setup host).pipeline.nextId])
    {start : Host Key (Watched Key Memory)}
    (hstart : start = after routines depth
      (setup ++ [.call (.register (.ofValue value) name key)]) host) :
    (forall step, step ∈ steps routines depth operations start ->
      exists answer, step.ending = .returned answer) ∧
    visitsIn key (after routines depth operations start).memory.seen +
        (after routines depth operations start).queue.length +
        total Operation.failed (steps routines depth operations start) =
      visitsIn key start.memory.seen + start.queue.length +
        (total Operation.dispatched (steps routines depth operations start) +
          total Operation.compiled (steps routines depth operations start) +
          total Operation.requested (steps routines depth operations start)) := by
  rcases run_balances hquiet hpass hlinker depth hsetup (attends_of_fresh hfresh key)
    with ⟨hprepared, -, -⟩
  have hregistered := hprepared.register_key value name
  have hattends : start.Attends key [⟨(after routines depth setup host).pipeline.nextId,
      Priority.ofValue value, .action name key⟩] := by
    rw [hstart, after_append]
    exact hregistered.of_eq rfl rfl
  rcases run_balances hquiet hpass hlinker depth hoperations hattends
    with ⟨-, hreturned, hbalance⟩
  exact ⟨hreturned, hbalance rfl⟩

/-- Two loads, one of which is taken over, and a request of the host; the round
that loads the artifacts has them compiled again, and the next one does not. -/
def reloadSession : List (Operation Nat) :=
  [.call (.load (Path.ofString "a.el")), .call (.load (Path.ofString "notes.txt")),
    .call (.enqueue ⟨Path.ofString "b.el", .immediate⟩), .call .runPending, .disable 0,
    .call .runPending, .call (.load (Path.ofString "c.el")), .enable 0]

theorem spares_reloadSession (ids : List Nat) (operation : Operation Nat)
    (hmem : operation ∈ reloadSession) :
    operation.IsLawful ∧ operation.Spares 0 ids := by
  simp only [reloadSession, List.mem_cons, List.not_mem_nil, or_false] at hmem
  rcases hmem with rfl | rfl | rfl | rfl | rfl | rfl | rfl | rfl
  all_goals exact ⟨trivial, trivial⟩

def reloadStart : Host Nat (Watched Nat Unit) :=
  after .plain 0 ([.enable 0] ++ [.call (.register (.ofValue 0) "count" 0)])
    (single Policy.empty [".el"])

theorem visits_add_waiting_reloadSession :
    (forall step, step ∈ steps .plain 0 reloadSession reloadStart ->
      exists answer, step.ending = .returned answer) ∧
    visitsIn 0 (after .plain 0 reloadSession reloadStart).memory.seen = 4 ∧
    (after .plain 0 reloadSession reloadStart).queue.length = 2 ∧
    visitsIn 0 (after .plain 0 reloadSession reloadStart).memory.seen +
        (after .plain 0 reloadSession reloadStart).queue.length +
        total Operation.failed (steps .plain 0 reloadSession reloadStart) =
      visitsIn 0 reloadStart.memory.seen + reloadStart.queue.length +
        (total Operation.dispatched (steps .plain 0 reloadSession reloadStart) +
          total Operation.compiled (steps .plain 0 reloadSession reloadStart) +
          total Operation.requested (steps .plain 0 reloadSession reloadStart)) := by
  have hsetup : forall operation : Operation Nat, operation ∈ [.enable 0] ->
      operation.IsLawful ∧ operation.Spares 0 [] := by
    intro operation hmem
    rw [List.mem_singleton.mp hmem]
    exact ⟨trivial, trivial⟩
  rcases visits_add_waiting_add_failed Routines.quiet_plain Routines.passOn_plain
    Routines.linkerAnswers_plain 0 (isFresh_single Policy.empty [".el"]) 0 "count"
    hsetup (spares_reloadSession _) rfl with ⟨hreturned, hbalance⟩
  refine ⟨hreturned, ?_, ?_, hbalance⟩
  · decide +kernel
  · decide +kernel

end Host
end CompileOnLoad
