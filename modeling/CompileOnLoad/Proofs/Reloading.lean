import CompileOnLoad.Facade
import CompileOnLoad.Proofs.Recording
import CompileOnLoad.Proofs.Switching
import CompileOnLoad.Proofs.Utf8

/-!
# Reloading a policy

A policy file is refused for the same reasons as its text, or because it has no text.  A
policy that is refused leaves everything as it was.  One that is accepted takes the place
of the one before it, of which nothing is left, and what is compiled is then decided by it.
-/

namespace CompileOnLoad

variable {Key Memory α : Type}

/-!
# Policy files and their texts
-/

/-- The file can be read, and its bytes are the text in UTF-8. -/
def Files.HasText (files : Files) (path : Path) (text : String) : Prop :=
  files.readBytes path = .ok (Utf8.encode text.toList)

theorem Files.readText_eq_ok_iff {files : Files} {path : Path} {text : String} :
    files.readText path = .ok text <-> files.HasText path text := by
  unfold readText HasText
  cases files.readBytes path with
  | error error => exact ⟨nofun, nofun⟩
  | ok bytes =>
      simp only [bind, Except.bind, Except.ok.injEq]
      cases hdecoded : Utf8.decode? bytes with
      | none =>
          refine ⟨nofun, fun h => ?_⟩
          rw [Utf8.decode?_eq_some_iff.mpr h] at hdecoded
          cases hdecoded
      | some cs =>
          constructor
          · intro h
            rw [← Except.ok.inj h, String.toList_ofList]
            exact Utf8.decode?_eq_some_iff.mp hdecoded
          · intro h
            rw [Utf8.decode?_eq_some_iff.mpr h] at hdecoded
            rw [← Option.some.inj hdecoded]
            exact congrArg Except.ok String.ofList_toList

namespace Policy

/-- Reading a policy file comes to the same as reading its text, but that a failure names
the file. -/
structure ReadsAsText (files : Files) (path : Path) : Prop where
  unreadable : (exists file message, ofFile files path = .error (.io file message)) <->
    ¬ exists text, files.HasText path text
  named : forall file message, ofFile files path = .error (.io file message) -> file = path
  accepted : forall text, files.HasText path text ->
    forall policy, ofFile files path = .ok policy <-> ofText text = .ok policy
  refused : forall text, files.HasText path text ->
    forall error, ofFile files path = .error error <->
      exists message, ofText text = .error (.parse none message) ∧
        error = .parse (some path) message

theorem ofFile_of_noText {files : Files} {path : Path}
    (h : ¬ exists text, files.HasText path text) :
    exists message, ofFile files path = .error (.io path message) := by
  unfold ofFile
  cases hread : files.readText path with
  | error error => exact ⟨error.message, rfl⟩
  | ok text => exact absurd ⟨text, Files.readText_eq_ok_iff.mp hread⟩ h

theorem ofFile_of_hasText {files : Files} {path : Path} {text : String}
    (h : files.HasText path text) :
    ofFile files path =
      ((Document.ofText text).mapError (ConfigError.parse (some path))).map ofDocument := by
  unfold ofFile
  simp only [Files.readText_eq_ok_iff.mpr h]
  cases Document.ofText text with
  | error message => rfl
  | ok document => rfl

theorem ofFile_ne_io {files : Files} {path : Path} {text : String}
    (h : files.HasText path text) (file : Path) (message : String) :
    ofFile files path ≠ .error (.io file message) := by
  rw [ofFile_of_hasText h]
  cases Document.ofText text with
  | error message => nofun
  | ok document => nofun

theorem ofText_eq (text : String) :
    ofText text =
      ((Document.ofText text).mapError (ConfigError.parse none)).map ofDocument := by
  unfold ofText
  cases Document.ofText text with
  | error message => rfl
  | ok document => rfl

theorem readsAsText (files : Files) (path : Path) : ReadsAsText files path where
  unreadable := by
    constructor
    · intro ⟨file, message, hfile⟩ ⟨text, htext⟩
      exact ofFile_ne_io htext file message hfile
    · intro h
      exact ⟨path, ofFile_of_noText h⟩
  named file message hfile := by
    by_cases htext : exists text, files.HasText path text
    · rcases htext with ⟨text, htext⟩
      exact absurd hfile (ofFile_ne_io htext file message)
    · rcases ofFile_of_noText htext with ⟨_, hsame⟩
      rw [hsame] at hfile
      cases hfile
      rfl
  accepted text htext policy := by
    rw [ofFile_of_hasText htext, ofText_eq]
    cases Document.ofText text with
    | error message => exact ⟨nofun, nofun⟩
    | ok document => exact Iff.rfl
  refused text htext error := by
    rw [ofFile_of_hasText htext, ofText_eq]
    cases Document.ofText text with
    | error message =>
        constructor
        · intro h
          exact ⟨message, rfl, (Except.error.inj h).symm⟩
        · intro ⟨_, hmessage, herror⟩
          cases hmessage
          rw [herror]
          rfl
    | ok document => exact ⟨nofun, nofun⟩

end Policy

/-!
# Policies in force
-/

/-- A file that is given to an engine is skipped just if it is not eligible, whatever the
compiler does. -/
theorem Engine.compile_skips_iff (routines : Routines Key Memory)
    (perform : Performer Key Memory) (index : Nat) (path? : Option Path)
    (host : Host Key Memory) :
    (compile routines perform index path? host).1 = .returned .skipped <->
      host.isEligible index path? = false := by
  cases heligible : host.isEligible index path? with
  | false =>
      rw [compile_of_ineligible perform heligible]
      exact ⟨fun _ => rfl, fun _ => rfl⟩
  | true =>
      refine ⟨fun h => ?_, nofun⟩
      cases path? with
      | none => cases heligible
      | some source =>
          rw [compile_of_eligible perform heligible] at h
          revert h
          unfold compileEligible
          simp only
          generalize Script.run perform _ _ = compiled
          rcases compiled with ⟨ending, after⟩
          cases ending with
          | returned answer =>
              cases answer with
              | ok artifact => nofun
              | error failure => nofun
          | panicked panic => nofun
          | exhausted => nofun

namespace Host

/-- The engines that share a policy go by it, and by nothing else of that handle. -/
structure IsDecidedBy (handle : Nat) (policy : Policy) (host : Host Key Memory) : Prop where
  holds : host.policy handle = policy
  eligible : forall engine path?, (host.engine engine).policy = handle ->
    host.isEligible engine path? = CompileOnLoad.isEligible path? policy host.suffixes
  given : forall routines perform engine path?, (host.engine engine).policy = handle ->
    ((Engine.compile routines perform engine path? host).1 = .returned .skipped <->
      CompileOnLoad.isEligible path? policy host.suffixes = false)

variable {handle : Nat} {policy : Policy} {host : Host Key Memory}

theorem isDecidedBy (h : host.policy handle = policy) : host.IsDecidedBy handle policy := by
  have heligible (engine : Nat) (path? : Option Path)
      (hengine : (host.engine engine).policy = handle) :
      host.isEligible engine path? = CompileOnLoad.isEligible path? policy host.suffixes := by
    unfold isEligible
    rw [hengine, h]
  refine ⟨h, heligible, ?_⟩
  intro routines perform engine path? hengine
  rw [Engine.compile_skips_iff, heligible engine path? hengine]

theorem policy_updatePolicy (hhandle : handle < host.context.policies.length)
    (edit : Policy -> Policy) :
    (host.updatePolicy handle edit).policy handle = edit (host.policy handle) := by
  simp [Host.policy, updatePolicy, Context.policy, Context.updatePolicy,
    List.getD_eq_getElem?_getD, hhandle]

theorem policy_updatePolicy_of_ne {other : Nat} (h : handle ≠ other)
    (edit : Policy -> Policy) :
    (host.updatePolicy handle edit).policy other = host.policy other := by
  simp [Host.policy, updatePolicy, Context.policy, Context.updatePolicy,
    List.getD_eq_getElem?_getD, h]

/-!
# While no one edits the policy
-/

theorem policy_apply (hrecords : forall logger, Log.RecordsOnly host.loggers logger)
    {change : Change Key Memory} (hedit : forall edit, change ≠ .editPolicy handle edit) :
    (change.apply host).policy handle = host.policy handle := by
  cases change with
  | log logger level target message =>
      exact (sameState_log (hrecords logger) level target message).eq (·.policy handle)
        fun _ => rfl
  | editPolicy other edit =>
      have hother : other ≠ handle := fun h => hedit edit (h ▸ rfl)
      exact policy_updatePolicy_of_ne hother edit
  | _ => rfl

theorem recordsOnly_apply {logger : Nat} (hrecords : Log.RecordsOnly host.loggers logger)
    (change : Change Key Memory) : Log.RecordsOnly (change.apply host).loggers logger :=
  hrecords.of_routes (routes_apply change host).symm

theorem isDecidedBy_throughout (hrecords : forall logger, Log.RecordsOnly host.loggers logger)
    {entries : List (Entry Key Memory)}
    (hedit : forall entry, entry ∈ entries ->
      forall edit, entry.change ≠ .editPolicy handle edit) :
    host.Throughout (fun state _ => state.IsDecidedBy handle (host.policy handle))
      entries := by
  generalize hpolicy : host.policy handle = policy
  induction entries generalizing host with
  | nil => trivial
  | cons entry rest ih =>
      refine ⟨isDecidedBy hpolicy, ?_⟩
      apply ih
      · exact fun logger => recordsOnly_apply (hrecords logger) entry.change
      · exact fun later hmem => hedit later (List.mem_cons_of_mem _ hmem)
      · rw [policy_apply hrecords (hedit entry List.mem_cons_self), hpolicy]

end Host

/-!
# Events and sweeps
-/

def Observer.sightings (eligible : Nat -> Option Path -> Bool) (path? : Option Path) :
    Observer Key -> List (Sighting Key)
  | .action _ key => [.visited key path?]
  | .hook engine => compilings eligible engine path?

namespace Host

variable {routines : Routines Key Memory}

theorem visit_keeps (hquiet : routines.Quiet)
    (perform : Performer Key (Watched Key Memory)) (path? : Option Path)
    (observer : Observer Key) (host : Host Key (Watched Key Memory)) :
    Keeps host (visit routines.watched perform path? observer host).2
      (observer.sightings host.isEligible path?) := by
  cases observer with
  | hook engine =>
      rcases Engine.compile_moves hquiet perform engine path? host with ⟨outcome, -, hmoves⟩
      simp only [visit, Act.andThen_map]
      exact hmoves.toKeeps
  | action name key =>
      simp only [visit]
      rw [Script.run_eq_eval perform (hquiet.watched.observe key path?),
        Routines.eval_watched_observe hquiet]
      exact ⟨rfl, rfl, rfl, fun _ _ => rfl, rfl⟩

/-- Observers are told one after the other until one handles the load or breaks off, and those
that were told do what they do whatever the others do. -/
theorem visitAll_keeps (hquiet : routines.Quiet)
    (perform : Performer Key (Watched Key Memory)) (path? : Option Path)
    (observers : List (Observer Key)) (host : Host Key (Watched Key Memory)) :
    exists told, told <+: observers ∧ (observers ≠ [] -> told ≠ []) ∧
      Keeps host (visitAll routines.watched perform path? observers host).2
        (told.flatMap (·.sightings host.isEligible path?)) := by
  induction observers generalizing host with
  | nil => exact ⟨[], List.prefix_refl [], id, keeps_refl host⟩
  | cons observer rest ih =>
      have hsome (told : List (Observer Key)) : observer :: rest ≠ [] ->
        observer :: told ≠ [] := fun _ => List.cons_ne_nil observer told
      have hvisited := visit_keeps hquiet perform path? observer host
      have hlast : [observer].flatMap (·.sightings host.isEligible path?) =
          observer.sightings host.isEligible path? := List.append_nil _
      rcases hvisit : visit routines.watched perform path? observer host with ⟨ending, middle⟩
      rw [hvisit] at hvisited
      simp only [visitAll, Act.andThen, hvisit]
      cases ending with
      | panicked panic => exact ⟨[observer], ⟨rest, rfl⟩, hsome [], hlast ▸ hvisited⟩
      | exhausted => exact ⟨[observer], ⟨rest, rfl⟩, hsome [], hlast ▸ hvisited⟩
      | returned disposition =>
          have hreported := hvisited.of_sameBare
            (sameBare_reportVisit path? observer.name disposition middle)
          cases disposition with
          | handled => exact ⟨[observer], ⟨rest, rfl⟩, hsome [], hlast ▸ hreported⟩
          | passThrough =>
              rcases ih (reportVisit path? observer.name .passThrough middle)
                with ⟨told, hprefix, -, hafter⟩
              have hall := hreported.trans hafter
              rw [hreported.isEligible_eq, ← List.flatMap_cons] at hall
              refine ⟨observer :: told, List.cons_prefix_cons.mpr ⟨rfl, hprefix⟩,
                hsome told, ?_⟩
              rcases hrest : visitAll routines.watched perform path? rest
                (reportVisit path? observer.name .passThrough middle) with ⟨ending, after⟩
              rw [hrest] at hall
              simp only [hrest]
              cases ending with
              | returned report => exact hall
              | panicked panic => exact hall
              | exhausted => exact hall

end Host

/-!
# All or nothing
-/

namespace Host

def eligibleUnder (handle : Nat) (policy : Policy) (host : Host Key Memory) (engine : Nat)
    (path? : Option Path) : Bool :=
  if (host.engine engine).policy = handle then
    CompileOnLoad.isEligible path? policy host.suffixes
  else host.isEligible engine path?

end Host

/-- A shared policy was replaced, and nothing else was, but for what was written. -/
structure InForce (handle : Nat) (policy : Policy) (before after : Host Key Memory) :
    Prop where
  state : after.SameState (before.updatePolicy handle fun _ => policy)
  others : forall other, other ≠ handle -> after.policy other = before.policy other
  engines : after.engines = before.engines
  interceptors : after.interceptors = before.interceptors
  queue : after.queue = before.queue
  now : after.IsDecidedBy handle policy
  /-- The policy decides until it is edited, whatever is done with the host. -/
  later : forall routines depth operations,
    (forall entry, entry ∈ Host.told routines depth operations after ->
      forall edit, entry.change ≠ .editPolicy handle edit) ->
    after.Throughout (fun host _ => host.IsDecidedBy handle policy)
      (Host.told routines depth operations after)
  eligible : after.isEligible = before.eligibleUnder handle policy
  /-- A watcher of the next event sees the files compiled that are eligible under the
  policy. -/
  event : forall (watching : Host Key (Watched Key Memory)) routines perform path?,
    watching.Watches after -> routines.Quiet ->
      exists told, told <+: before.pipeline.observers ∧
        (before.pipeline.observers ≠ [] -> told ≠ []) ∧
        (Host.announce (Routines.watched routines) perform path? watching).2.memory.seen =
          watching.memory.seen ++
            told.flatMap (·.sightings (before.eligibleUnder handle policy) path?)
  /-- And so does a watcher of the next sweep. -/
  sweep : forall (watching : Host Key (Watched Key Memory)) routines perform index,
    watching.Watches after -> routines.Quiet ->
    (before.interceptor index).activation = .inactive ->
      (Interceptor.enable (Routines.watched routines) perform index watching).2.memory.seen =
        watching.memory.seen ++
          Interceptor.sweepings (before.eligibleUnder handle policy)
            (before.interceptor index).engine before.history

namespace Host

variable {handle : Nat} {policy : Policy} {before after : Host Key Memory}

theorem isEligible_of_sameState
    (hstate : after.SameState (before.updatePolicy handle fun _ => policy))
    (hpolicy : after.policy handle = policy) :
    after.isEligible = before.eligibleUnder handle policy := by
  funext engine path?
  have hsame : after.isEligible engine path? =
      (before.updatePolicy handle fun _ => policy).isEligible engine path? :=
    hstate.eq (·.isEligible engine path?) fun _ => rfl
  have hengine : after.engine engine = before.engine engine :=
    hstate.eq (·.engine engine) fun _ => rfl
  have hsuffixes : after.suffixes = before.suffixes := hstate.eq Host.suffixes fun _ => rfl
  unfold eligibleUnder
  split
  · next hshared =>
      rw [(isDecidedBy hpolicy).eligible engine path? (hengine ▸ hshared), hsuffixes]
  · next hother =>
      rw [hsame]
      unfold isEligible
      show CompileOnLoad.isEligible path?
        ((before.updatePolicy handle fun _ => policy).policy (before.engine engine).policy)
        before.suffixes = _
      rw [policy_updatePolicy_of_ne (Ne.symm hother)]

theorem event_of_sameState
    (hstate : after.SameState (before.updatePolicy handle fun _ => policy))
    (heligible : after.isEligible = before.eligibleUnder handle policy)
    {watching : Host Key (Watched Key Memory)} {routines : Routines Key Memory}
    (hwatches : watching.Watches after) (hquiet : routines.Quiet)
    (perform : Performer Key (Watched Key Memory)) (path? : Option Path) :
    exists told, told <+: before.pipeline.observers ∧
      (before.pipeline.observers ≠ [] -> told ≠ []) ∧
      (announce routines.watched perform path? watching).2.memory.seen =
        watching.memory.seen ++
          told.flatMap (·.sightings (before.eligibleUnder handle policy) path?) := by
  cases hwatches
  have hpipeline : watching.pipeline = before.pipeline :=
    hstate.eq Host.pipeline fun _ => rfl
  rcases visitAll_keeps hquiet perform path? watching.pipeline.observers watching
    with ⟨told, hprefix, htold, hkeeps⟩
  have hseen := hkeeps.seen
  rw [show watching.isEligible = watching.unwatched.isEligible from rfl, heligible] at hseen
  rw [hpipeline] at hprefix htold
  exact ⟨told, hprefix, htold, hseen⟩

theorem sweep_of_sameState
    (hstate : after.SameState (before.updatePolicy handle fun _ => policy))
    (heligible : after.isEligible = before.eligibleUnder handle policy)
    {watching : Host Key (Watched Key Memory)} {routines : Routines Key Memory}
    (hwatches : watching.Watches after) (hquiet : routines.Quiet)
    (perform : Performer Key (Watched Key Memory)) {index : Nat}
    (hinactive : (before.interceptor index).activation = .inactive) :
    (Interceptor.enable routines.watched perform index watching).2.memory.seen =
      watching.memory.seen ++
        Interceptor.sweepings (before.eligibleUnder handle policy)
          (before.interceptor index).engine before.history := by
  cases hwatches
  have hinterceptor : watching.interceptor index = before.interceptor index :=
    hstate.eq (·.interceptor index) fun _ => rfl
  have hhistory : watching.history = before.history := hstate.eq Host.history fun _ => rfl
  rcases Interceptor.enable_moves hquiet perform (hinterceptor ▸ hinactive)
    with ⟨report, requests, -, hmoves, -⟩
  have hseen := hmoves.seen
  have hengine : ((watching.install index).interceptor index).engine =
      (before.interceptor index).engine := by
    rw [← hinterceptor]
    exact engine_interceptor_setActivation _ index index _
  rw [show watching.isEligible = watching.unwatched.isEligible from rfl, heligible, hengine,
    hhistory] at hseen
  exact hseen

theorem inForce_of_sameState (hhandle : handle < before.context.policies.length)
    (hrecords : forall logger, Log.RecordsOnly before.loggers logger)
    (hstate : after.SameState (before.updatePolicy handle fun _ => policy)) :
    InForce handle policy before after := by
  have hpolicy : after.policy handle = policy :=
    (hstate.eq (·.policy handle) fun _ => rfl).trans (policy_updatePolicy hhandle _)
  have heligible := isEligible_of_sameState hstate hpolicy
  have hloggers : after.loggers = before.loggers := hstate.eq Host.loggers fun _ => rfl
  refine
    { state := hstate
      others := ?_
      engines := hstate.eq Host.engines fun _ => rfl
      interceptors := hstate.eq Host.interceptors fun _ => rfl
      queue := hstate.eq Host.queue fun _ => rfl
      now := isDecidedBy hpolicy
      later := ?_
      eligible := heligible
      event := ?_
      sweep := ?_ }
  · intro other hother
    exact (hstate.eq (·.policy other) fun _ => rfl).trans
      (policy_updatePolicy_of_ne hother.symm _)
  · intro routines depth operations hedit
    rw [← hpolicy]
    exact isDecidedBy_throughout (hloggers ▸ hrecords) hedit
  · intro watching routines perform path? hwatches hquiet
    exact event_of_sameState hstate heligible hwatches hquiet perform path?
  · intro watching routines perform index hwatches hquiet hinactive
    exact sweep_of_sameState hstate heligible hwatches hquiet perform hinactive

end Host

theorem Host.sameState_foldl_log {host : Host Key Memory} {logger : Nat}
    (hrecords : Log.RecordsOnly host.loggers logger) (level : Log.Level) (target : String)
    (message : α -> String) (items : List α) :
    (items.foldl (fun host item => host.log logger level target (message item))
      host).SameState host := by
  induction items generalizing host with
  | nil => rfl
  | cons item rest ih =>
      have hlogged := recordsOnly_apply hrecords (.log logger level target (message item))
      exact (ih hlogged).trans (sameState_log hrecords level target (message item))

/-- Putting a policy in the place of another forgets every edit of that one. -/
theorem Host.updatePolicy_updatePolicy (host : Host Key Memory) (handle : Nat)
    (edit : Policy -> Policy) (policy : Policy) :
    (host.updatePolicy handle edit).updatePolicy handle (fun _ => policy) =
      host.updatePolicy handle fun _ => policy := by
  unfold updatePolicy Context.updatePolicy
  simp only [List.modify_modify_eq]
  rfl

namespace Host

variable {host : Host Key Memory} {path : Path}

theorem reloadPolicy_of_error {error : ConfigError}
    (h : Policy.ofFile host.outlets.files path = .error error) (handle : Nat) :
    host.reloadPolicy handle path = (.error error, host) := by
  unfold reloadPolicy Context.reloadPolicy
  simp only [show Policy.ofFile host.context.logging.outlets.files path = .error error from h]

theorem reloadPolicy_of_ok {policy : Policy}
    (h : Policy.ofFile host.outlets.files path = .ok policy) (handle : Nat) :
    host.reloadPolicy handle path = (.ok (), host.updatePolicy handle fun _ => policy) := by
  unfold reloadPolicy Context.reloadPolicy
  simp only [show Policy.ofFile host.context.logging.outlets.files path = .ok policy from h]
  rfl

theorem reloadPolicy_eq_error_iff {handle : Nat} {error : ConfigError} :
    (host.reloadPolicy handle path).1 = .error error <->
      Policy.ofFile host.outlets.files path = .error error := by
  cases hread : Policy.ofFile host.outlets.files path with
  | error other =>
      rw [reloadPolicy_of_error hread]
      simp
  | ok policy =>
      rw [reloadPolicy_of_ok hread]
      simp

end Host

namespace Facade

variable {facade : Facade} {path : Path} {host : Host Key Memory}

theorem reloadPolicy_of_error {error : ConfigError}
    (h : Policy.ofFile host.outlets.files path = .error error) :
    facade.reloadPolicy path host = (.error (.config error), host) := by
  unfold reloadPolicy
  rw [Host.reloadPolicy_of_error h]

theorem reloadPolicy_of_ok {policy : Policy}
    (h : Policy.ofFile host.outlets.files path = .ok policy) :
    facade.reloadPolicy path host =
      (.ok (),
        facade.reportInvalid
          ((host.updatePolicy facade.settings.policy fun _ => policy).log
            facade.settings.logger .info target ("Policy reloaded from " ++ path.text))) := by
  unfold reloadPolicy
  rw [Host.reloadPolicy_of_ok h]

theorem reloadPolicy_eq_error_iff {failure : Failure} :
    (facade.reloadPolicy path host).1 = .error failure <->
      exists error, Policy.ofFile host.outlets.files path = .error error ∧
        failure = .config error := by
  cases hread : Policy.ofFile host.outlets.files path with
  | error error =>
      rw [reloadPolicy_of_error hread]
      constructor
      · intro h
        exact ⟨error, rfl, (Except.error.inj h).symm⟩
      · intro ⟨other, hother, hfailure⟩
        rw [hfailure, ← Except.error.inj hother]
  | ok policy =>
      rw [reloadPolicy_of_ok hread]
      exact ⟨nofun, nofun⟩

theorem sameState_reportInvalid
    (hrecords : Log.RecordsOnly host.loggers facade.settings.logger) :
    (facade.reportInvalid host).SameState host :=
  Host.sameState_foldl_log hrecords .warn target _ _

theorem sameState_reloadPolicy
    (hrecords : Log.RecordsOnly host.loggers facade.settings.logger) {policy : Policy}
    (h : Policy.ofFile host.outlets.files path = .ok policy) :
    (facade.reloadPolicy path host).2.SameState
      (host.updatePolicy facade.settings.policy fun _ => policy) := by
  have hreplaced : Log.RecordsOnly
      (host.updatePolicy facade.settings.policy fun _ => policy).loggers
      facade.settings.logger := hrecords
  have hlogged := Host.recordsOnly_apply hreplaced
    (.log facade.settings.logger .info target ("Policy reloaded from " ++ path.text))
  rw [reloadPolicy_of_ok h]
  exact (sameState_reportInvalid hlogged).trans (Host.sameState_log hreplaced _ _ _)

/-- Reloading a policy is all or nothing: a policy is refused for the reasons for which its
text is, or because there is no text, and then nothing changes; any other is then the policy
in force, and nothing is left of the one before it. -/
theorem reload_all_or_nothing (facade : Facade) (path : Path) (host : Host Key Memory)
    (hhandle : facade.settings.policy < host.context.policies.length)
    (hrecords : forall logger, Log.RecordsOnly host.loggers logger) :
    let files := host.outlets.files
    let handle := facade.settings.policy
    Policy.ReadsAsText files path ∧
    (forall error, (host.reloadPolicy handle path).1 = .error error <->
      Policy.ofFile files path = .error error) ∧
    (forall failure, (facade.reloadPolicy path host).1 = .error failure <->
      exists error, Policy.ofFile files path = .error error ∧ failure = .config error) ∧
    (forall error, Policy.ofFile files path = .error error ->
      (host.reloadPolicy handle path).2 = host ∧ (facade.reloadPolicy path host).2 = host) ∧
    (forall policy, Policy.ofFile files path = .ok policy ->
      InForce handle policy host (host.reloadPolicy handle path).2 ∧
      InForce handle policy host (facade.reloadPolicy path host).2 ∧
      forall edit,
        ((host.updatePolicy handle edit).reloadPolicy handle path).2 =
          (host.reloadPolicy handle path).2 ∧
        (facade.reloadPolicy path (host.updatePolicy handle edit)).2 =
          (facade.reloadPolicy path host).2) := by
  refine ⟨Policy.readsAsText _ path, fun error => Host.reloadPolicy_eq_error_iff,
    fun failure => reloadPolicy_eq_error_iff, ?_, ?_⟩
  · intro error hrefused
    rw [Host.reloadPolicy_of_error hrefused, reloadPolicy_of_error hrefused]
    exact ⟨rfl, rfl⟩
  · intro policy haccepted
    refine ⟨?_, ?_, ?_⟩
    · rw [Host.reloadPolicy_of_ok haccepted]
      exact Host.inForce_of_sameState hhandle hrecords rfl
    · exact Host.inForce_of_sameState hhandle hrecords
        (sameState_reloadPolicy (hrecords facade.settings.logger) haccepted)
    · intro edit
      have hedited : Policy.ofFile
          (host.updatePolicy facade.settings.policy edit).outlets.files path = .ok policy :=
        haccepted
      rw [Host.reloadPolicy_of_ok hedited, Host.reloadPolicy_of_ok haccepted,
        reloadPolicy_of_ok hedited, reloadPolicy_of_ok haccepted,
        Host.updatePolicy_updatePolicy]
      exact ⟨rfl, rfl⟩

/-- A host whose policy excludes the one file that it has loaded, and two policy files. -/
def excluding : Host Nat Unit where
  context := {
    logging := {
      loggers := [{ level := .trace, sinks := [.memory] }]
      outlets.files.entries := [
        ([Path.bytes (Path.ofString "open.json")],
          .file (Utf8.encode "\x7b\"system_dirs\": [], \"verbose\": false\x7d".toList)),
        ([Path.bytes (Path.ofString "torn.json")],
          .file (Utf8.encode "not json".toList))] }
    policies := [Policy.empty.push (.exactly (Path.ofString "a.el"))] }
  suffixes := [".el"]
  history := [⟨Path.ofString "a.el", none⟩]
  engines := [⟨0, 0, {}⟩]
  interceptors := [⟨0, 0, .inactive⟩]
  memory := ()

def reloading : Facade := ⟨0, ⟨0, 0⟩⟩

def openedBy (name : String) : Host Nat Unit :=
  (reloading.reloadPolicy (Path.ofString name) excluding).2

/-- One file is refused, and the other opens the way for the file that was excluded. -/
theorem reload_all_or_nothing_excluding :
    reloading.settings.policy < excluding.context.policies.length ∧
    (forall logger, Log.RecordsOnly excluding.loggers logger) ∧
    openedBy "torn.json" = excluding ∧
    excluding.isEligible 0 (some (Path.ofString "a.el")) = false ∧
    (exists policy, InForce 0 policy excluding (openedBy "open.json") ∧
      policy.verbose = false) ∧
    (openedBy "open.json").isEligible 0 (some (Path.ofString "a.el")) = true := by
  have hhandle : reloading.settings.policy < excluding.context.policies.length := by decide
  have hrecords : forall logger, Log.RecordsOnly excluding.loggers logger :=
    Log.recordsOnly_of_sinks (by decide)
  have htorn :
      (Policy.ofFile excluding.outlets.files
        (Path.ofString "torn.json")).toOption.isNone = true := by decide +kernel
  have hopen :
      (Policy.ofFile excluding.outlets.files
        (Path.ofString "open.json")).toOption.map (·.verbose) = some false := by
    decide +kernel
  refine ⟨hhandle, hrecords, ?_, by decide +kernel, ?_, by decide +kernel⟩
  · rcases reload_all_or_nothing reloading (Path.ofString "torn.json") excluding
      hhandle hrecords with ⟨-, -, -, hrefused, -⟩
    cases hread : Policy.ofFile excluding.outlets.files (Path.ofString "torn.json") with
    | error error => exact (hrefused error hread).2
    | ok policy =>
        rw [hread] at htorn
        cases htorn
  · rcases reload_all_or_nothing reloading (Path.ofString "open.json") excluding
      hhandle hrecords with ⟨-, -, -, -, haccepted⟩
    cases hread : Policy.ofFile excluding.outlets.files (Path.ofString "open.json") with
    | error error =>
        rw [hread] at hopen
        cases hopen
    | ok policy =>
        rw [hread] at hopen
        exact ⟨policy, (haccepted policy hread).2.1, Option.some.inj hopen⟩

end Facade
end CompileOnLoad
