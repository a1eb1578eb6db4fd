import CompileOnLoad.Interceptor

/-!
# Acts that correspond

Two acts correspond along a relation between hosts when, from related hosts,
they end alike and lead to related hosts again.  What a host does is put
together from a few steps of its own and from its routines, so two hosts
correspond in all that they do as soon as the relation is kept by those steps
and the routines correspond.

A relation that holds on the diagonal only, where a property holds, makes this
a principle for properties that every act keeps.
-/

namespace CompileOnLoad

variable {Key Memory Memory' α β : Type}
variable {R : Host Key Memory -> Host Key Memory' -> Prop}

def Ending.map (f : α -> β) : Ending α -> Ending β
  | returned a => returned (f a)
  | panicked panic => panicked panic
  | exhausted => exhausted

namespace Act

/-- From related hosts the acts end alike, and lead to related hosts. -/
def Corresponds (R : Host Key Memory -> Host Key Memory' -> Prop)
    (act : Act Key Memory α) (act' : Act Key Memory' α) : Prop :=
  forall host host', R host host' ->
    (act host).1 = (act' host').1 ∧ R (act host).2 (act' host').2

theorem corresponds_returned (a : α) :
    Corresponds R (fun host => (.returned a, host))
      (fun host => (.returned a, host)) := by
  intro host host' h
  exact ⟨rfl, h⟩

theorem corresponds_exhausted :
    Corresponds (α := α) R (fun host => (.exhausted, host))
      (fun host => (.exhausted, host)) := by
  intro host host' h
  exact ⟨rfl, h⟩

/-- An act that always returns corresponds to another if its answer does. -/
theorem corresponds_ofPure
    {f : Host Key Memory -> α × Host Key Memory}
    {f' : Host Key Memory' -> α × Host Key Memory'}
    (hf : forall host host', R host host' ->
      (f host).1 = (f' host').1 ∧ R (f host).2 (f' host').2) :
    Corresponds R (ofPure f) (ofPure f') := by
  intro host host' h
  rcases hf host host' h with ⟨hanswer, hafter⟩
  exact ⟨congrArg Ending.returned hanswer, hafter⟩

theorem corresponds_andThen
    {act : Act Key Memory α} {act' : Act Key Memory' α}
    {next : α -> Act Key Memory β} {next' : α -> Act Key Memory' β}
    (hact : Corresponds R act act')
    (hnext : forall a, Corresponds R (next a) (next' a)) :
    Corresponds R (act.andThen next) (act'.andThen next') := by
  intro host host' h
  rcases hact host host' h with ⟨hending, hafter⟩
  unfold Act.andThen
  rcases hrun : act host with ⟨ending, after⟩
  rcases hrun' : act' host' with ⟨ending', after'⟩
  rw [hrun, hrun'] at hending hafter
  cases hending
  cases ending with
  | returned a => exact hnext a after after' hafter
  | panicked panic => exact ⟨rfl, hafter⟩
  | exhausted => exact ⟨rfl, hafter⟩

theorem andThen_of_returned {act : Act Key Memory α} {next : α -> Act Key Memory β}
    {host after : Host Key Memory} {a : α} (h : act host = (.returned a, after)) :
    act.andThen next host = next a after := by
  unfold andThen
  rw [h]

theorem andThen_of_panicked {act : Act Key Memory α} {next : α -> Act Key Memory β}
    {host after : Host Key Memory} {p : Panic} (h : act host = (.panicked p, after)) :
    act.andThen next host = (.panicked p, after) := by
  unfold andThen
  rw [h]

theorem andThen_map (act : Act Key Memory α) (f : α -> β) (host : Host Key Memory) :
    (act.andThen fun a host => (.returned (f a), host)) host =
      ((act host).1.map f, (act host).2) := by
  unfold andThen
  rcases act host with ⟨ending, after⟩
  cases ending with
  | returned a => rfl
  | panicked p => rfl
  | exhausted => rfl

end Act

namespace Host

theorem interceptor_congr {host : Host Key Memory} {host' : Host Key Memory'}
    (h : host.interceptors = host'.interceptors) (index : Nat) :
    host.interceptor index = host'.interceptor index := by
  unfold Host.interceptor
  rw [h]

/-- Related hosts look alike to what announces loads and runs the queue, and
the steps of that keep them related. -/
structure Correspondence (R : Host Key Memory -> Host Key Memory' -> Prop) :
    Prop where
  logger : forall {host host'}, R host host' -> host.logger = host'.logger
  pipeline : forall {host host'}, R host host' -> host.pipeline = host'.pipeline
  queue : forall {host host'}, R host host' -> host.queue = host'.queue
  history : forall {host host'}, R host host' -> host.history = host'.history
  interceptors : forall {host host'}, R host host' ->
    host.interceptors = host'.interceptors
  setQueue : forall {host host'}, R host host' -> forall queue,
    R { host with queue } { host' with queue }
  remember : forall {host host'}, R host host' -> forall file,
    R (host.remember file) (host'.remember file)
  log : forall {host host'}, R host host' ->
    forall logger level target message,
      R (host.log logger level target message)
        (host'.log logger level target message)
  enterSpan : forall {host host'}, R host host' -> forall logger,
    R (host.enterSpan logger) (host'.enterSpan logger)
  leaveSpan : forall {host host'}, R host host' -> forall logger,
    R (host.leaveSpan logger) (host'.leaveSpan logger)

structure RoutinesCorrespond
    (R : Host Key Memory -> Host Key Memory' -> Prop)
    (routines : Routines Key Memory) (perform : Performer Key Memory)
    (routines' : Routines Key Memory') (perform' : Performer Key Memory') :
    Prop where
  compile : forall engine path?, Act.Corresponds R
    (Engine.compile routines perform engine path?)
    (Engine.compile routines' perform' engine path?)
  link : forall artifact, Act.Corresponds R
    ((routines.link artifact).run perform)
    ((routines'.link artifact).run perform')
  observe : forall key path?, Act.Corresponds R
    ((routines.observe key path?).run perform)
    ((routines'.observe key path?).run perform')

namespace Correspondence

variable {routines : Routines Key Memory} {perform : Performer Key Memory}
variable {routines' : Routines Key Memory'} {perform' : Performer Key Memory'}

theorem visit (hroutines : RoutinesCorrespond R routines perform routines' perform')
    (path? : Option Path) (observer : Observer Key) :
    Act.Corresponds R (Host.visit routines perform path? observer)
      (Host.visit routines' perform' path? observer) := by
  cases observer with
  | hook engine =>
      apply Act.corresponds_andThen (hroutines.compile engine path?)
      intro outcome
      exact Act.corresponds_returned _
  | action name key => exact hroutines.observe key path?

theorem reportVisit (hR : Correspondence R) {host : Host Key Memory}
    {host' : Host Key Memory'} (h : R host host') (path? : Option Path)
    (name : String) (disposition : Disposition) :
    R (Host.reportVisit path? name disposition host)
      (Host.reportVisit path? name disposition host') := by
  unfold Host.reportVisit
  rw [hR.logger h]
  have htrace := hR.log h host'.logger .trace pipelineTarget
    ("observer " ++ name ++ " -> " ++ disposition.label)
  cases disposition with
  | passThrough => exact htrace
  | handled =>
      simp only
      rw [hR.logger htrace]
      exact hR.log htrace _ _ _ _

theorem visitAll (hR : Correspondence R)
    (hroutines : RoutinesCorrespond R routines perform routines' perform')
    (path? : Option Path) (observers : List (Observer Key)) :
    Act.Corresponds R (Host.visitAll routines perform path? observers)
      (Host.visitAll routines' perform' path? observers) := by
  induction observers with
  | nil => exact Act.corresponds_returned _
  | cons observer rest ih =>
      apply Act.corresponds_andThen (visit hroutines path? observer)
      intro disposition host host' h
      have hreport := hR.reportVisit h path? observer.name disposition
      cases disposition with
      | handled => exact ⟨rfl, hreport⟩
      | passThrough =>
          apply Act.corresponds_andThen ih _ _ _ hreport
          intro report
          exact Act.corresponds_returned _

theorem announce (hR : Correspondence R)
    (hroutines : RoutinesCorrespond R routines perform routines' perform')
    (path? : Option Path) :
    Act.Corresponds R (Host.announce routines perform path?)
      (Host.announce routines' perform' path?) := by
  intro host host' h
  unfold Host.announce
  rw [hR.pipeline h]
  exact hR.visitAll hroutines path? _ host host' h

theorem load (hR : Correspondence R)
    (hroutines : RoutinesCorrespond R routines perform routines' perform')
    (source : Path) :
    Act.Corresponds R (Host.load routines perform source)
      (Host.load routines' perform' source) := by
  intro host host' h
  exact hR.announce hroutines (some source) _ _ (hR.remember h ⟨source, none⟩)

theorem execute (hR : Correspondence R)
    (hroutines : RoutinesCorrespond R routines perform routines' perform')
    (artifact : Path) :
    Act.Corresponds R (Host.execute routines perform artifact)
      (Host.execute routines' perform' artifact) := by
  apply Act.corresponds_andThen (hroutines.link artifact)
  intro linked host host' h
  simp only
  rw [hR.logger h]
  cases linked with
  | ok _ =>
      apply Act.corresponds_andThen (hR.announce hroutines (some artifact)) _ _ _
        (hR.log h _ _ _ _)
      intro report
      exact Act.corresponds_returned _
  | error failure => exact ⟨rfl, hR.log h _ _ _ _⟩

theorem runRequests (hR : Correspondence R)
    (hroutines : RoutinesCorrespond R routines perform routines' perform')
    (n : Nat) :
    Act.Corresponds R (Host.runRequests routines perform n)
      (Host.runRequests routines' perform' n) := by
  induction n with
  | zero => exact Act.corresponds_returned _
  | succ n ih =>
      intro host host' h
      unfold Host.runRequests
      rw [hR.queue h]
      cases host'.queue with
      | nil => exact ⟨rfl, h⟩
      | cons request queue =>
          simp only
          apply Act.corresponds_andThen (hR.execute hroutines request.artifact) _ _ _
            (hR.setQueue h queue)
          intro result
          apply Act.corresponds_andThen ih
          intro report
          exact Act.corresponds_returned _

theorem runPending (hR : Correspondence R)
    (hroutines : RoutinesCorrespond R routines perform routines' perform') :
    Act.Corresponds R (Host.runPending routines perform)
      (Host.runPending routines' perform') := by
  intro host host' h
  unfold Host.runPending
  rw [hR.queue h]
  exact hR.runRequests hroutines _ host host' h

theorem sweepFiles
    (hroutines : RoutinesCorrespond R routines perform routines' perform')
    (engine : Nat) (files : List LoadedFile) (report : SweepReport) :
    Act.Corresponds R (Interceptor.sweepFiles routines perform engine report files)
      (Interceptor.sweepFiles routines' perform' engine report files) := by
  induction files generalizing report with
  | nil => exact Act.corresponds_returned _
  | cons file rest ih =>
      apply Act.corresponds_andThen (hroutines.compile engine (some file.source))
      intro outcome
      exact ih (report.note outcome)

theorem interceptor (hR : Correspondence R) {host : Host Key Memory}
    {host' : Host Key Memory'} (h : R host host') (index : Nat) :
    host.interceptor index = host'.interceptor index :=
  interceptor_congr (hR.interceptors h) index

theorem sweep (hR : Correspondence R)
    (hroutines : RoutinesCorrespond R routines perform routines' perform')
    (index : Nat) :
    Act.Corresponds R (Interceptor.sweep routines perform index)
      (Interceptor.sweep routines' perform' index) := by
  intro host host' h
  unfold Interceptor.sweep
  simp only
  rw [hR.interceptor h, hR.history h]
  have hstart := hR.log (hR.enterSpan h (host'.interceptor index).logger)
    (host'.interceptor index).logger .debug Interceptor.target
    ("sweeping " ++ toString host'.history.length ++ " previously loaded files")
  rcases sweepFiles hroutines (host'.interceptor index).engine host'.history {}
    _ _ hstart with ⟨hending, hafter⟩
  revert hending hafter
  generalize Interceptor.sweepFiles routines perform _ _ _ _ = swept
  generalize Interceptor.sweepFiles routines' perform' _ _ _ _ = swept'
  rcases swept with ⟨ending, after⟩
  rcases swept' with ⟨ending', after'⟩
  intro hending hafter
  cases hending
  cases ending with
  | returned report =>
      exact ⟨rfl, hR.leaveSpan (hR.log hafter _ _ _ _) _⟩
  | panicked panic => exact ⟨rfl, hR.leaveSpan hafter _⟩
  | exhausted => exact ⟨rfl, hR.leaveSpan hafter _⟩

theorem handle (hR : Correspondence R)
    (hroutines : RoutinesCorrespond R routines perform routines' perform')
    (index : Nat) (path? : Option Path) :
    Act.Corresponds R (Interceptor.handle routines perform index path?)
      (Interceptor.handle routines' perform' index path?) := by
  intro host host' h
  unfold Interceptor.handle
  rw [hR.interceptor h]
  apply Act.corresponds_andThen (hroutines.compile _ path?) _ _ _ h
  intro outcome
  exact Act.corresponds_returned _

end Correspondence

/-!
# Compiling

A warning of an engine names the index of a pattern, so engines correspond in
what they report only where the whole judgement is the same.
-/

/-- Related hosts also look alike to engines, and what an engine does keeps
them related. -/
structure EngineCorrespondence (R : Host Key Memory -> Host Key Memory' -> Prop) :
    Prop extends Correspondence R where
  engines : forall {host host'}, R host host' -> host.engines = host'.engines
  suffixes : forall {host host'}, R host host' -> host.suffixes = host'.suffixes
  policy : forall {host host'}, R host host' -> forall handle,
    host.policy handle = host'.policy handle
  count : forall {host host'}, R host host' -> forall engine outcome,
    R (host.count engine outcome) (host'.count engine outcome)

structure ScriptsCorrespond
    (R : Host Key Memory -> Host Key Memory' -> Prop)
    (routines : Routines Key Memory) (perform : Performer Key Memory)
    (routines' : Routines Key Memory') (perform' : Performer Key Memory') :
    Prop where
  compile : forall engine source, Act.Corresponds R
    ((routines.compile engine source).run perform)
    ((routines'.compile engine source).run perform')
  link : forall artifact, Act.Corresponds R
    ((routines.link artifact).run perform)
    ((routines'.link artifact).run perform')
  observe : forall key path?, Act.Corresponds R
    ((routines.observe key path?).run perform)
    ((routines'.observe key path?).run perform')

namespace EngineCorrespondence

variable {routines : Routines Key Memory} {perform : Performer Key Memory}
variable {routines' : Routines Key Memory'} {perform' : Performer Key Memory'}

theorem engine (hR : EngineCorrespondence R) {host : Host Key Memory}
    {host' : Host Key Memory'} (h : R host host') (index : Nat) :
    host.engine index = host'.engine index := by
  unfold Host.engine
  rw [hR.engines h]

theorem enqueue (hR : EngineCorrespondence R) {host : Host Key Memory}
    {host' : Host Key Memory'} (h : R host host') (request : Request) :
    R (host.enqueue request) (host'.enqueue request) := by
  unfold Host.enqueue
  rw [hR.queue h]
  exact hR.setQueue h _

theorem reportErrors (hR : EngineCorrespondence R) (logger : Nat)
    (errors : List (Nat × PatternError)) {host : Host Key Memory}
    {host' : Host Key Memory'} (h : R host host') :
    R (Engine.reportErrors logger errors host)
      (Engine.reportErrors logger errors host') := by
  induction errors generalizing host host' with
  | nil => exact h
  | cons error rest ih => exact ih (hR.log h _ _ _ _)

theorem skip (hR : EngineCorrespondence R) {host : Host Key Memory}
    {host' : Host Key Memory'} (h : R host host') (index : Nat)
    (path? : Option Path) (verdict : Verdict) :
    R (Engine.skip index path? verdict host).2
      (Engine.skip index path? verdict host').2 := by
  unfold Engine.skip
  cases path? with
  | none => exact hR.count h _ _
  | some path =>
      simp only
      rw [hR.engine h]
      exact hR.count (hR.log h _ _ _ _) _ _

theorem succeed (hR : EngineCorrespondence R) {host : Host Key Memory}
    {host' : Host Key Memory'} (h : R host host') (index : Nat)
    (source artifact : Path) :
    R (Engine.succeed index source artifact host).2
      (Engine.succeed index source artifact host').2 := by
  have hqueued := hR.enqueue h ⟨artifact, .deferred⟩
  unfold Engine.succeed
  simp only
  rw [hR.engine hqueued]
  exact hR.count (hR.log hqueued _ _ _ _) _ _

theorem fail (hR : EngineCorrespondence R) {host : Host Key Memory}
    {host' : Host Key Memory'} (h : R host host') (index : Nat) (source : Path)
    (failure : CompileFailure) :
    R (Engine.fail index source failure host).2
      (Engine.fail index source failure host').2 := by
  unfold Engine.fail
  simp only
  rw [hR.engine h]
  exact hR.count (hR.log h _ _ _ _) _ _

theorem compileEligible (hR : EngineCorrespondence R)
    (hscripts : ScriptsCorrespond R routines perform routines' perform')
    (index : Nat) (source : Path) :
    Act.Corresponds R (Engine.compileEligible routines perform index source)
      (Engine.compileEligible routines' perform' index source) := by
  intro host host' h
  unfold Engine.compileEligible
  simp only
  rw [hR.engine h]
  rcases hscripts.compile index source _ _
    (hR.enterSpan h (host'.engine index).logger) with ⟨hending, hafter⟩
  revert hending hafter
  generalize Script.run perform _ _ = compiled
  generalize Script.run perform' _ _ = compiled'
  rcases compiled with ⟨ending, after⟩
  rcases compiled' with ⟨ending', after'⟩
  intro hending hafter
  cases hending
  have hleft := hR.leaveSpan hafter (host'.engine index).logger
  cases ending with
  | returned result =>
      cases result with
      | ok artifact => exact ⟨rfl, hR.succeed hleft index source artifact⟩
      | error failure => exact ⟨rfl, hR.fail hleft index source failure⟩
  | panicked panic => exact ⟨rfl, hR.fail hleft index source _⟩
  | exhausted => exact ⟨rfl, hleft⟩

theorem compile (hR : EngineCorrespondence R)
    (hscripts : ScriptsCorrespond R routines perform routines' perform')
    (index : Nat) (path? : Option Path) :
    Act.Corresponds R (Engine.compile routines perform index path?)
      (Engine.compile routines' perform' index path?) := by
  intro host host' h
  unfold Engine.compile
  simp only
  rw [hR.engine h, hR.policy h, hR.suffixes h]
  generalize judge path? _ host'.suffixes = judgement
  have hreported := hR.reportErrors (host'.engine index).logger judgement.errors h
  cases path? with
  | none => exact ⟨rfl, hR.skip hreported index none judgement.verdict⟩
  | some source =>
      cases judgement.verdict with
      | eligible =>
          exact hR.compileEligible hscripts index source _ _
            (hR.log hreported _ _ _ _)
      | noPath => exact ⟨rfl, hR.skip hreported index (some source) _⟩
      | unrecognizedSuffix => exact ⟨rfl, hR.skip hreported index (some source) _⟩
      | excluded rule pattern => exact ⟨rfl, hR.skip hreported index (some source) _⟩

theorem routinesCorrespond (hR : EngineCorrespondence R)
    (hscripts : ScriptsCorrespond R routines perform routines' perform') :
    RoutinesCorrespond R routines perform routines' perform' where
  compile := hR.compile hscripts
  link := hscripts.link
  observe := hscripts.observe

end EngineCorrespondence

/-!
# Nested calls

Four calls change the host at once, at every depth.  The other four run
routines, which may call again; they correspond at every depth if at each depth
the scripts do, given that the calls themselves do at that depth.
-/

theorem perform_register (routines : Routines Key Memory) (depth : Nat)
    (priority : Priority) (name : String) (key : Key) :
    perform routines depth (.register priority name key) =
      Act.ofPure (·.register priority (.action name key)) := by
  cases depth <;> rfl

theorem perform_unregister (routines : Routines Key Memory) (depth id : Nat) :
    perform routines depth (.unregister id) = Act.ofPure (·.unregister id) := by
  cases depth <;> rfl

theorem perform_enqueue (routines : Routines Key Memory) (depth : Nat)
    (request : Request) :
    perform routines depth (.enqueue request) =
      Act.ofPure fun host => ((), host.enqueue request) := by
  cases depth <;> rfl

theorem perform_editPolicy (routines : Routines Key Memory) (depth handle : Nat)
    (edit : Policy -> Policy) :
    perform routines depth (.editPolicy handle edit) =
      Act.ofPure fun host => ((), host.updatePolicy handle edit) := by
  cases depth <;> rfl

structure CallsCorrespond
    (R : Host Key Memory -> Host Key Memory' -> Prop)
    (perform : Performer Key Memory) (perform' : Performer Key Memory') :
    Prop where
  load : forall source,
    Act.Corresponds R (perform (.load source)) (perform' (.load source))
  announce : forall path?,
    Act.Corresponds R (perform (.announce path?)) (perform' (.announce path?))
  runPending :
    Act.Corresponds R (perform .runPending) (perform' .runPending)
  compile : forall engine path?,
    Act.Corresponds R (perform (.compile engine path?))
      (perform' (.compile engine path?))

theorem EngineCorrespondence.callsCorrespond (hR : EngineCorrespondence R)
    {routines : Routines Key Memory} {routines' : Routines Key Memory'}
    (hscripts : forall depth,
      CallsCorrespond R (perform routines depth) (perform routines' depth) ->
        ScriptsCorrespond R routines (perform routines depth)
          routines' (perform routines' depth))
    (depth : Nat) :
    CallsCorrespond R (perform routines depth) (perform routines' depth) := by
  induction depth with
  | zero =>
      constructor
      · intro source
        exact Act.corresponds_exhausted
      · intro path?
        exact Act.corresponds_exhausted
      · exact Act.corresponds_exhausted
      · intro engine path?
        exact Act.corresponds_exhausted
  | succ depth ih =>
      have hroutines := hR.routinesCorrespond (hscripts depth ih)
      constructor
      · intro source
        exact hR.toCorrespondence.load hroutines source
      · intro path?
        exact hR.toCorrespondence.announce hroutines path?
      · exact hR.toCorrespondence.runPending hroutines
      · intro engine path?
        exact hroutines.compile engine path?

/-!
# Interception
-/

structure HookCorrespondence (R : Host Key Memory -> Host Key Memory' -> Prop) :
    Prop extends Correspondence R where
  setPipeline : forall {host host'}, R host host' -> forall pipeline,
    R { host with pipeline } { host' with pipeline }
  setActivation : forall {host host'}, R host host' -> forall index activation,
    R (host.setActivation index activation) (host'.setActivation index activation)

namespace HookCorrespondence

variable {routines : Routines Key Memory} {perform : Performer Key Memory}
variable {routines' : Routines Key Memory'} {perform' : Performer Key Memory'}

theorem register (hR : HookCorrespondence R) {host : Host Key Memory}
    {host' : Host Key Memory'} (h : R host host') (priority : Priority)
    (observer : Observer Key) :
    (host.register priority observer).1 = (host'.register priority observer).1 ∧
      R (host.register priority observer).2
        (host'.register priority observer).2 := by
  unfold Host.register
  rw [hR.pipeline h]
  exact ⟨rfl, hR.setPipeline h _⟩

theorem unregister (hR : HookCorrespondence R) {host : Host Key Memory}
    {host' : Host Key Memory'} (h : R host host') (id : Nat) :
    (host.unregister id).1 = (host'.unregister id).1 ∧
      R (host.unregister id).2 (host'.unregister id).2 := by
  unfold Host.unregister
  rw [hR.pipeline h]
  exact ⟨rfl, hR.setPipeline h _⟩

theorem enable (hR : HookCorrespondence R)
    (hroutines : RoutinesCorrespond R routines perform routines' perform')
    (index : Nat) :
    Act.Corresponds R (Interceptor.enable routines perform index)
      (Interceptor.enable routines' perform' index) := by
  intro host host' h
  unfold Interceptor.enable
  simp only
  rw [hR.interceptor h]
  split
  · exact ⟨rfl, hR.log h _ _ _ _⟩
  · apply Act.corresponds_andThen (hR.sweep hroutines index)
      (fun report => Act.corresponds_returned (some report))
    rcases hR.register h Priority.reserved (.hook (host'.interceptor index).engine)
      with ⟨hhook, hregistered⟩
    rw [hhook]
    exact hR.log (hR.setActivation hregistered _ _) _ _ _ _

theorem disable (hR : HookCorrespondence R) {host : Host Key Memory}
    {host' : Host Key Memory'} (h : R host host') (index : Nat) :
    (Interceptor.disable index host).1 = (Interceptor.disable index host').1 ∧
      R (Interceptor.disable index host).2 (Interceptor.disable index host').2 := by
  unfold Interceptor.disable
  simp only
  rw [hR.interceptor h]
  cases (host'.interceptor index).activation with
  | inactive => exact ⟨rfl, h⟩
  | active hook =>
      rcases hR.unregister (hR.setActivation h index .inactive) hook
        with ⟨hfound, hremoved⟩
      refine ⟨rfl, hR.log ?_ _ _ _ _⟩
      rw [hfound]
      split
      · exact hremoved
      · exact hR.log hremoved _ _ _ _

end HookCorrespondence
end Host
end CompileOnLoad
