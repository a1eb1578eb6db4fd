import CompileOnLoad.Proofs.Compilation
import CompileOnLoad.Proofs.Recording

/-!
# What giving a file to an engine does

The course of giving a file to an engine is fixed by the host before it and by what the
compiler makes of the file.  Whichever course it takes, it returns, and shows in the
memory, in the queue, in the tally of the engine and in the records, and nowhere else.
-/

namespace CompileOnLoad

variable {Key Memory : Type}

/-!
# Logging with a span opened in between
-/

namespace Context

def passSpans (context : Context) (logger spans : Nat) : Context :=
  { context with
    logging := context.logging.update logger fun entry =>
      { entry with nextSpan := entry.nextSpan + spans } }

theorem passSpans_zero (context : Context) (logger : Nat) :
    context.passSpans logger 0 = context := by
  unfold passSpans Log.Logging.update
  have hmodify : context.logging.loggers.modify logger
      (fun entry => { entry with nextSpan := entry.nextSpan + 0 }) =
        context.logging.loggers :=
    List.modify_id ..
  rw [hmodify]

theorem leaveSpan_enterSpan (context : Context) (logger : Nat) :
    (context.enterSpan logger).leaveSpan logger = context.passSpans logger 1 := by
  unfold leaveSpan enterSpan passSpans Log.Logging.update
  rw [List.modify_modify_eq]
  rfl

theorem loggers_passSpans_restored {context : Context} {loggers : List Log.Logger}
    (h : context.logging.loggers = loggers) (logger spans : Nat) :
    { context.passSpans logger spans with
      logging := { (context.passSpans logger spans).logging with loggers } } = context := by
  cases h
  rfl

theorem receive_passSpans (context : Context) (logger spans : Nat) (delivery : Log.Delivery) :
    (context.passSpans logger spans).receive delivery =
      (context.receive delivery).passSpans logger spans := by
  rcases delivery with ⟨sink, record⟩
  cases sink with
  | pruner handle =>
      unfold receive
      simp only
      split
      · rfl
      · rfl
  | _ => rfl

theorem foldl_receive_passSpans (context : Context) (logger spans : Nat)
    (deliveries : List Log.Delivery) :
    deliveries.foldl receive (context.passSpans logger spans) =
      (deliveries.foldl receive context).passSpans logger spans := by
  induction deliveries generalizing context with
  | nil => rfl
  | cons delivery rest ih => rw [List.foldl_cons, List.foldl_cons, receive_passSpans, ih]

theorem map_view_passSpans {α : Type} (context : Context) (logger spans : Nat)
    (view : Log.Logger -> α)
    (hview : forall entry : Log.Logger,
      view { entry with nextSpan := entry.nextSpan + spans } = view entry) :
    (context.passSpans logger spans).logging.loggers.map view =
      context.logging.loggers.map view := by
  apply List.ext_getElem?
  intro other
  unfold passSpans Log.Logging.update
  simp only [List.getElem?_map, List.getElem?_modify]
  cases context.logging.loggers[other]? with
  | none => rfl
  | some entry =>
      split
      · exact congrArg some (hview entry)
      · rfl

theorem deliveries_passSpans (context : Context) (logger spans index : Nat)
    (level : Log.Level) (target message : String) :
    (context.passSpans logger spans).logging.deliveries index level target message =
      context.logging.deliveries index level target message := by
  have hview : forall first second : Log.Logger,
      (first.route, first.spans) = (second.route, second.spans) ->
        first.route = second.route ∧ forall sink now level target message,
          (⟨sink, first.record now level target message⟩ : Log.Delivery) =
            ⟨sink, second.record now level target message⟩ := by
    intro first second hsame
    rcases Prod.mk.inj hsame with ⟨hroute, hspans⟩
    refine ⟨hroute, fun sink now level target message => ?_⟩
    unfold Log.Logger.record
    rw [hspans]
  have hloggers := map_view_passSpans context logger spans
    (fun entry => (entry.route, entry.spans)) fun _ => rfl
  have hmapped :
      ((context.passSpans logger spans).logging.deliveries index level target
          message).map id =
        (context.logging.deliveries index level target message).map id :=
    Log.map_deliveries hloggers hview context.logging.now index level target message
  rw [List.map_id, List.map_id] at hmapped
  exact hmapped

theorem now_receive (context : Context) (delivery : Log.Delivery) :
    (context.receive delivery).logging.now = context.logging.now := by
  unfold receive
  split
  · split
    · rfl
    · rfl
  · rfl

theorem deliveries_foldl_receive (context : Context) (received : List Log.Delivery)
    (index : Nat) (level : Log.Level) (target message : String) :
    (received.foldl receive context).logging.deliveries index level target message =
      context.logging.deliveries index level target message := by
  induction received generalizing context with
  | nil => rfl
  | cons delivery rest ih =>
      rw [List.foldl_cons, ih]
      unfold Log.Logging.deliveries
      rw [loggers_receive, now_receive]

end Context

namespace Engine

structure Notice where
  level : Log.Level
  message : String

def delivered (context : Context) (logger : Nat) (notices : List Notice) :
    List Log.Delivery :=
  notices.flatMap fun notice =>
    context.logging.deliveries logger notice.level target notice.message

def inform (logger : Nat) (notices : List Notice) (host : Host Key Memory) :
    Host Key Memory :=
  notices.foldl (fun host notice => host.log logger notice.level target notice.message) host

theorem inform_append (logger : Nat) (notices later : List Notice) (host : Host Key Memory) :
    inform logger (notices ++ later) host =
      inform logger later (inform logger notices host) :=
  List.foldl_append

/-- Messages do nothing but that their records are received, and which records there are
does not depend on those before. -/
theorem inform_eq (logger : Nat) (notices : List Notice) (host : Host Key Memory) :
    inform logger notices host =
      { host with
        context :=
          (delivered host.context logger notices).foldl Context.receive host.context } := by
  induction notices generalizing host with
  | nil => rfl
  | cons notice rest ih =>
      unfold inform at ih
      unfold inform delivered
      rw [List.foldl_cons, ih, List.flatMap_cons, List.foldl_append]
      unfold Host.log Context.log delivered
      simp only [Context.deliveries_foldl_receive]

/-!
# Courses
-/

/-- What giving a file to an engine comes to: the outcome, the tally and the memory after
it, the files that the compiler is given, the requests that are queued, and the messages. -/
structure Course (Memory : Type) where
  outcome : Outcome
  tally : Tally
  memory : Memory
  given : List Path := []
  requests : List Request := []
  notices : List Notice

inductive Makes (source : Path) : Ending (Except CompileFailure Path) -> Outcome -> Prop where
  | artifact (artifact : Path) : Makes source (.returned (.ok artifact)) (.compiled artifact)
  | refusal (failure : CompileFailure) :
      Makes source (.returned (.error failure)) (.failed failure)
  | panic (message : String) :
      Makes source (.panicked (.text message)) (.failed (.panicked source message))
  | wordlessPanic : Makes source (.panicked .other)
      (.failed (.panicked source "non-string panic payload"))

def judgement (index : Nat) (path? : Option Path) (host : Host Key Memory) : Judgement :=
  judge path? (host.policy (host.engine index).policy) host.suffixes

def warnings (errors : List (Nat × PatternError)) : List Notice :=
  errors.map fun (index, error) =>
    ⟨.warn, "ignoring exclusion pattern #" ++ toString index ++ ": " ++ error.message⟩

/-- The message that a file is compiled, which a verbose policy makes more prominent. -/
def progress (verbose : Bool) (source : Path) : Notice :=
  ⟨if verbose then .info else .debug, "Compiling " ++ source.text⟩

inductive Takes (routines : Routines Key Memory) (index : Nat) (host : Host Key Memory) :
    Option Path -> Course Memory -> Prop where
  | skipped {path? : Option Path} (ineligible : host.isEligible index path? = false) :
      Takes routines index host path? {
        outcome := .skipped
        tally := { (host.engine index).tally with
          skipped := (host.engine index).tally.skipped + 1 }
        memory := host.memory
        notices := warnings (judgement index path? host).errors ++
          path?.toList.map fun path =>
            ⟨.trace, "Skipping " ++ path.text ++ ": " ++
              (judgement index path? host).verdict.display⟩ }
  | compiled {source artifact : Path} {ending : Ending (Except CompileFailure Path)}
      {memory : Memory} (eligible : host.isEligible index (some source) = true)
      (compiles : (routines.compile index source).eval host.memory = (ending, memory))
      (makes : Makes source ending (.compiled artifact)) :
      Takes routines index host (some source) {
        outcome := .compiled artifact
        tally := { (host.engine index).tally with
          compiled := (host.engine index).tally.compiled + 1 }
        memory
        given := [source]
        requests := [⟨artifact, .deferred⟩]
        notices := warnings (judgement index (some source) host).errors ++
          [progress (host.policy (host.engine index).policy).verbose source,
            ⟨.debug, "Scheduled deferred load of " ++ artifact.text ++ " for " ++
              source.text⟩] }
  | failed {source : Path} {failure : CompileFailure}
      {ending : Ending (Except CompileFailure Path)} {memory : Memory}
      (eligible : host.isEligible index (some source) = true)
      (compiles : (routines.compile index source).eval host.memory = (ending, memory))
      (makes : Makes source ending (.failed failure)) :
      Takes routines index host (some source) {
        outcome := .failed failure
        tally := { (host.engine index).tally with
          failed := (host.engine index).tally.failed + 1 }
        memory
        given := [source]
        notices := warnings (judgement index (some source) host).errors ++
          [progress (host.policy (host.engine index).policy).verbose source,
            ⟨.warn, "Failed to compile " ++ source.text ++ ": " ++ failure.message⟩] }

variable {routines : Routines Key Memory} {index : Nat} {host : Host Key Memory}
variable {path? : Option Path} {course : Course Memory}

/-- A quiet compiler ends in a way of which the engine makes something, for one of three
reasons or with an artifact. -/
theorem exists_makes {source : Path} {ending : Ending (Except CompileFailure Path)}
    (hended : ending ≠ .exhausted) :
    (exists artifact, Makes source ending (.compiled artifact)) ∨
      exists failure, Makes source ending (.failed failure) := by
  cases ending with
  | returned answer =>
      cases answer with
      | ok artifact => exact .inl ⟨artifact, .artifact artifact⟩
      | error failure => exact .inr ⟨failure, .refusal failure⟩
  | panicked panic =>
      cases panic with
      | text message => exact .inr ⟨_, .panic message⟩
      | other => exact .inr ⟨_, .wordlessPanic⟩
  | exhausted => exact absurd rfl hended

theorem exists_takes (hquiet : forall source, (routines.compile index source).IsQuiet)
    (path? : Option Path) (host : Host Key Memory) :
    exists course, Takes routines index host path? course := by
  cases heligible : host.isEligible index path? with
  | false => exact ⟨_, .skipped heligible⟩
  | true =>
      cases path? with
      | none => cases heligible
      | some source =>
          have hended := Script.eval_ne_exhausted (hquiet source) host.memory
          rcases exists_makes hended with ⟨artifact, hmakes⟩ | ⟨failure, hmakes⟩
          · exact ⟨_, .compiled heligible rfl hmakes⟩
          · exact ⟨_, .failed heligible rfl hmakes⟩

theorem Takes.outcome_eq_skipped_iff (h : Takes routines index host path? course) :
    course.outcome = .skipped <-> host.isEligible index path? = false := by
  cases h with
  | skipped ineligible => exact ⟨fun _ => ineligible, fun _ => rfl⟩
  | compiled eligible compiles makes =>
      rw [eligible]
      exact ⟨nofun, nofun⟩
  | failed eligible compiles makes =>
      rw [eligible]
      exact ⟨nofun, nofun⟩

/-!
# The host after a course
-/

/-- The host with what a course leaves in it, but for the messages and the tally.  Each file
that the compiler is given has a span of its own. -/
def yielded (index : Nat) (given : List Path) (memory : Memory) (requests : List Request)
    (host : Host Key Memory) : Host Key Memory :=
  { host with
    context := host.context.passSpans (host.engine index).logger given.length
    memory
    queue := host.queue ++ requests }

def follow (index : Nat) (course : Course Memory) (host : Host Key Memory) :
    Host Key Memory :=
  (inform (host.engine index).logger course.notices
    (yielded index course.given course.memory course.requests host)).count index
      course.outcome

theorem yielded_nil (index : Nat) (host : Host Key Memory) :
    yielded index [] host.memory [] host = host := by
  unfold yielded
  rw [List.length_nil, Context.passSpans_zero, List.append_nil]

theorem reportErrors_eq_inform (logger : Nat) (errors : List (Nat × PatternError))
    (host : Host Key Memory) :
    reportErrors logger errors host = inform logger (warnings errors) host := by
  unfold reportErrors inform warnings
  rw [List.foldl_map]

theorem inform_progress (logger : Nat) (notices : List Notice) (verbose : Bool)
    (source : Path) (host : Host Key Memory) :
    (inform logger notices host).log logger (if verbose then .info else .debug) target
        ("Compiling " ++ source.text) =
      inform logger (notices ++ [progress verbose source]) host := by
  rw [inform_append]
  rfl

theorem engine_inform (logger : Nat) (notices : List Notice) (host : Host Key Memory) :
    (inform logger notices host).engine index = host.engine index := by
  rw [inform_eq]
  rfl

theorem memory_inform (logger : Nat) (notices : List Notice) (host : Host Key Memory) :
    (inform logger notices host).memory = host.memory := by
  rw [inform_eq]

theorem yielded_inform (index logger : Nat) (notices : List Notice) (given : List Path)
    (memory : Memory) (requests : List Request) (host : Host Key Memory) :
    yielded index given memory requests (inform logger notices host) =
      inform logger notices (yielded index given memory requests host) := by
  have hsame : delivered (yielded index given memory requests host).context logger notices =
      delivered host.context logger notices := by
    unfold delivered yielded
    simp only [Context.deliveries_passSpans]
  rw [inform_eq, inform_eq, hsame]
  unfold yielded
  simp only [Context.foldl_receive_passSpans]
  rfl

theorem skip_eq (path? : Option Path) (verdict : Verdict) (host : Host Key Memory) :
    skip index path? verdict host =
      (.skipped, (inform (host.engine index).logger
        (path?.toList.map fun path =>
          ⟨.trace, "Skipping " ++ path.text ++ ": " ++ verdict.display⟩) host).count
            index .skipped) := by
  cases path? with
  | none => rfl
  | some path => rfl

section

variable {source : Path} {ending : Ending (Except CompileFailure Path)} {memory : Memory}
variable (perform : Performer Key Memory)
variable (hquiet : (routines.compile index source).IsQuiet)
variable (hcompiles : (routines.compile index source).eval host.memory = (ending, memory))

include hquiet hcompiles

theorem run_in_span :
    exists inside, (routines.compile index source).run perform
        (host.enterSpan (host.engine index).logger) = (ending, inside) ∧
      inside.leaveSpan (host.engine index).logger =
        yielded index [source] memory [] host := by
  refine ⟨{ host.enterSpan (host.engine index).logger with memory }, ?_, ?_⟩
  · rw [Script.run_eq_eval perform hquiet,
      show (host.enterSpan (host.engine index).logger).memory = host.memory from rfl,
        hcompiles]
  · unfold yielded
    rw [List.append_nil, List.length_singleton, ← Context.leaveSpan_enterSpan]
    rfl

theorem compileEligible_of_artifact {artifact : Path}
    (hmakes : Makes source ending (.compiled artifact)) :
    compileEligible routines perform index source host =
      (.returned (.compiled artifact), (inform (host.engine index).logger
        [⟨.debug, "Scheduled deferred load of " ++ artifact.text ++ " for " ++ source.text⟩]
        (yielded index [source] memory [⟨artifact, .deferred⟩] host)).count
          index (.compiled artifact)) := by
  rcases run_in_span perform hquiet hcompiles with ⟨inside, hrun, hleft⟩
  have hqueued : (yielded index [source] memory [] host).enqueue ⟨artifact, .deferred⟩ =
      yielded index [source] memory [⟨artifact, .deferred⟩] host := by
    unfold yielded
    rw [List.append_nil]
    rfl
  unfold compileEligible
  simp only [hrun, hleft]
  cases hmakes with
  | artifact artifact =>
      rw [← hqueued]
      rfl

theorem compileEligible_of_failure {failure : CompileFailure}
    (hmakes : Makes source ending (.failed failure)) :
    compileEligible routines perform index source host =
      (.returned (.failed failure), (inform (host.engine index).logger
        [⟨.warn, "Failed to compile " ++ source.text ++ ": " ++ failure.message⟩]
        (yielded index [source] memory [] host)).count index (.failed failure)) := by
  rcases run_in_span perform hquiet hcompiles with ⟨inside, hrun, hleft⟩
  unfold compileEligible
  simp only [hrun, hleft]
  cases hmakes with
  | refusal failure => rfl
  | panic message => rfl
  | wordlessPanic => rfl

end

/-- Whatever course is taken, it is the whole of what giving the file to the engine does. -/
theorem Takes.compile_eq (h : Takes routines index host path? course)
    (hquiet : forall source, (routines.compile index source).IsQuiet)
    (perform : Performer Key Memory) :
    compile routines perform index path? host =
      (.returned course.outcome, follow index course host) := by
  cases h with
  | skipped ineligible =>
      rw [compile_of_ineligible perform ineligible, reportErrors_eq_inform]
      unfold Act.ofPure follow
      rw [skip_eq, engine_inform, yielded_nil, inform_append]
      rfl
  | compiled eligible compiles makes =>
      rename_i source artifact ending memory
      rw [compile_of_eligible perform eligible, reportErrors_eq_inform, inform_progress]
      rw [compileEligible_of_artifact perform (hquiet source)
          ((congrArg _ (memory_inform ..)).trans compiles) makes,
        engine_inform, yielded_inform, ← inform_append, List.append_assoc]
      rfl
  | failed eligible compiles makes =>
      rename_i source failure ending memory
      rw [compile_of_eligible perform eligible, reportErrors_eq_inform, inform_progress]
      rw [compileEligible_of_failure perform (hquiet source)
          ((congrArg _ (memory_inform ..)).trans compiles) makes,
        engine_inform, yielded_inform, ← inform_append, List.append_assoc]
      rfl

/-!
# What a course shows
-/

/-- A course shows in the host: what the watcher of the compiler has seen, what is queued,
which tally there is, and which records were received.  Open spans and all else are as
before. -/
structure Shows (index : Nat) (course : Course Memory)
    (before after : Host Key (Watched Key Memory)) : Prop where
  memory : after.memory =
    ⟨course.memory, before.memory.seen ++ course.given.map (Sighting.compiling index)⟩
  queue : after.queue = before.queue ++ course.requests
  engines : after.engines =
    before.engines.set index { before.engine index with tally := course.tally }
  spans : forall logger, after.spans logger = before.spans logger
  routes : after.routes = before.routes
  records : { after.context with
      logging := { after.context.logging with loggers := before.loggers } } =
    (delivered before.context (before.engine index).logger course.notices).foldl
      Context.receive before.context
  rest : { after with
      context := before.context, memory := before.memory, queue := before.queue,
      engines := before.engines } = before

theorem Takes.tally_eq (h : Takes routines index host path? course) :
    course.tally = (host.engine index).tally.count course.outcome := by
  cases h with
  | skipped ineligible => rfl
  | compiled eligible compiles makes => rfl
  | failed eligible compiles makes => rfl

theorem engines_count (index : Nat) (outcome : Outcome) (host : Host Key Memory) :
    (host.count index outcome).engines = host.engines.set index
      { host.engine index with tally := (host.engine index).tally.count outcome } := by
  apply List.ext_getElem?
  intro other
  unfold Host.count Host.engine
  simp only [List.getElem?_modify, List.getElem?_set]
  by_cases hindex : index = other
  · subst hindex
    cases hfound : host.engines[index]? with
    | none => simp [List.getElem?_eq_none_iff.mp hfound]
    | some engine =>
        rcases List.getElem?_eq_some_iff.mp hfound with ⟨hin, rfl⟩
        simp [List.getD_eq_getElem?_getD, hin]
  · simp [hindex]

theorem context_follow (index : Nat) (course : Course Memory) (host : Host Key Memory) :
    (follow index course host).context =
      ((delivered host.context (host.engine index).logger course.notices).foldl
        Context.receive host.context).passSpans (host.engine index).logger
          course.given.length := by
  unfold follow
  rw [← yielded_inform, inform_eq]
  rfl

theorem eval_watched_compile {host : Host Key (Watched Key Memory)} {source : Path}
    {ending : Ending (Except CompileFailure Path)} {memory : Memory}
    (hquiet : (routines.compile index source).IsQuiet)
    (hcompiles : (routines.compile index source).eval host.unwatched.memory =
      (ending, memory)) :
    (routines.watched.compile index source).eval host.memory =
      (ending, ⟨memory, host.memory.seen ++ [.compiling index source]⟩) := by
  have hwatched := Script.eval_watched hquiet (host.memory.see [.compiling index source])
  rw [show (routines.compile index source).eval
    (host.memory.see [.compiling index source]).memory = _ from hcompiles] at hwatched
  exact hwatched

/-- The course of a watched compiler is that of the compiler, and the watcher sees it. -/
theorem Takes.watched {host : Host Key (Watched Key Memory)}
    (h : Takes routines index host.unwatched path? course)
    (hquiet : forall source, (routines.compile index source).IsQuiet) :
    Takes routines.watched index host path? { course with
      memory :=
        ⟨course.memory, host.memory.seen ++ course.given.map (.compiling index)⟩ } := by
  cases h with
  | skipped ineligible =>
      simp only [List.map_nil, List.append_nil]
      exact .skipped ineligible
  | compiled eligible compiles makes =>
      exact .compiled eligible (eval_watched_compile (hquiet _) compiles) makes
  | failed eligible compiles makes =>
      exact .failed eligible (eval_watched_compile (hquiet _) compiles) makes

theorem loggers_foldl_receive (received : List Log.Delivery) (context : Context) :
    (received.foldl Context.receive context).logging.loggers = context.logging.loggers := by
  induction received generalizing context with
  | nil => rfl
  | cons delivery rest ih => rw [List.foldl_cons, ih, Context.loggers_receive]

theorem loggers_follow {α : Type} (index : Nat) (course : Course Memory)
    (host : Host Key Memory) (view : Log.Logger -> α)
    (hview : forall (entry : Log.Logger) (spans : Nat),
      view { entry with nextSpan := entry.nextSpan + spans } = view entry) :
    (follow index course host).loggers.map view = host.loggers.map view := by
  unfold Host.loggers
  rw [context_follow, Context.map_view_passSpans _ _ _ view fun entry => hview entry _,
    loggers_foldl_receive]

theorem spans_eq_getD (host : Host Key Memory) (logger : Nat) :
    host.spans logger = (host.loggers.map Log.Logger.spans).getD logger [] := by
  unfold Host.spans Log.Logging.logger Host.loggers
  simp only [List.getD_eq_getElem?_getD, List.getElem?_map]
  cases host.context.logging.loggers[logger]? with
  | none => rfl
  | some entry => rfl

theorem shows_follow (index : Nat) (course : Course Memory)
    (host : Host Key (Watched Key Memory))
    (htally : course.tally = (host.engine index).tally.count course.outcome) :
    Shows index course host (follow index { course with
      memory := ⟨course.memory,
        host.memory.seen ++ course.given.map (Sighting.compiling index)⟩ } host) := by
  refine { memory := ?_, queue := ?_, engines := ?_, spans := ?_, routes := ?_, records := ?_,
           rest := ?_ }
  · exact memory_inform _ _ _
  · unfold follow
    rw [inform_eq]
    rfl
  · unfold follow
    rw [engines_count, inform_eq, htally]
    rfl
  · intro logger
    rw [spans_eq_getD, spans_eq_getD, loggers_follow index _ host _ fun _ _ => rfl]
  · exact loggers_follow index _ host Log.Logger.route fun _ _ => rfl
  · rw [context_follow]
    exact Context.loggers_passSpans_restored (loggers_foldl_receive _ _) _ _
  · unfold follow
    rw [inform_eq]
    rfl

/-- A file that is given to an engine with a quiet compiler takes one of the courses, with a
watcher as without, whoever carries out calls.  It is skipped just if it was not eligible
before, and what the course comes to is all that it does. -/
theorem compile_takes_course (hquiet : forall source, (routines.compile index source).IsQuiet)
    (perform : Performer Key Memory) (perform' : Performer Key (Watched Key Memory))
    (path? : Option Path) (host : Host Key (Watched Key Memory)) :
    exists course after,
      Takes routines index host.unwatched path? course ∧
      compile routines.watched perform' index path? host = (.returned course.outcome, after) ∧
      compile routines perform index path? host.unwatched =
        (.returned course.outcome, after.unwatched) ∧
      (course.outcome = .skipped <-> host.isEligible index path? = false) ∧
      Shows index course host after := by
  rcases exists_takes hquiet path? host.unwatched with ⟨course, htakes⟩
  have hwatched := htakes.watched hquiet
  have hquiet' (source : Path) : (routines.watched.compile index source).IsQuiet :=
    Script.isQuiet_note (Script.isQuiet_watched (hquiet source))
  refine ⟨course, _, htakes, hwatched.compile_eq hquiet' perform', ?_,
    htakes.outcome_eq_skipped_iff, shows_follow index course host htakes.tally_eq⟩
  rw [htakes.compile_eq hquiet perform]
  unfold follow
  rw [inform_eq, inform_eq]
  rfl

def wordless : Routines Nat Unit where
  compile _ _ := .panic .other
  link _ := .done (.ok ())
  observe _ _ := .done .passThrough

/-- A host with a malformed expression and a predicate that breaks off, and with a logger
that removes malformed expressions on the first warning. -/
def troubledHost : Host Nat (Watched Nat Unit) where
  context := {
    logging := {
      loggers :=
        [{ level := .trace, sinks := [.memory, .pruner 0], spans := [7], nextSpan := 8 }] }
    policies := [(Policy.empty.push (.ofRegex "(x")).push
      (.predicate "odd" fun _ => .error (.text "lost"))] }
  suffixes := [".el"]
  engines := [⟨0, 0, ⟨1, 2, 3⟩⟩]
  queue := [⟨Path.ofString "b.eln", .immediate⟩]
  memory := ⟨(), []⟩

def carryingOutNothing : Performer Key Memory :=
  fun _ host => (.exhausted, host)

def troubledCompile : Ending Outcome × Host Nat (Watched Nat Unit) :=
  compile wordless.watched carryingOutNothing 0 (some (Path.ofString "a.el")) troubledHost

theorem compile_takes_course_troubled :
    (forall source, (wordless.compile 0 source).IsQuiet) ∧
    (exists course after,
      Takes wordless 0 troubledHost.unwatched (some (Path.ofString "a.el")) course ∧
      troubledCompile = (.returned course.outcome, after) ∧
      compile wordless carryingOutNothing 0 (some (Path.ofString "a.el"))
        troubledHost.unwatched = (.returned course.outcome, after.unwatched) ∧
      (course.outcome = .skipped <->
        troubledHost.isEligible 0 (some (Path.ofString "a.el")) = false) ∧
      Shows 0 course troubledHost after) ∧
    troubledCompile.1 = .returned (.failed
      (.panicked (Path.ofString "a.el") "non-string panic payload")) ∧
    troubledCompile.2.engines = [⟨0, 0, ⟨1, 2, 4⟩⟩] ∧
    troubledCompile.2.outlets.memory.map
        (fun record => (record.level, record.span, record.message)) =
      [(.warn, some 7, "ignoring exclusion pattern #0: invalid regex '(x': " ++
          "regex parse error:\n    (x\n    ^\nerror: unclosed group"),
        (.warn, some 7,
          "ignoring exclusion pattern #1: predicate 'odd' failed: panicked: lost"),
        (.info, some 7, "Compiling a.el"),
        (.warn, some 7, "Failed to compile a.el: compiler panicked on 'a.el': " ++
          "non-string panic payload")] := by
  have hquiet : forall source, (wordless.compile 0 source).IsQuiet := fun _ => trivial
  refine ⟨hquiet, ?_, ?_, ?_, ?_⟩
  · exact compile_takes_course hquiet carryingOutNothing carryingOutNothing _ troubledHost
  · decide +kernel
  · decide +kernel
  · decide +kernel

end Engine
end CompileOnLoad
