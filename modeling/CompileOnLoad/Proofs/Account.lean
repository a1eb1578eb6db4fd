import CompileOnLoad.Proofs.Run

/-!
# Accounts

An act takes a host from one state to another, and does not show what it passes
through on the way.  Its account does: it lists every change that the act makes,
one after the other, with marks of what the host turns to in between.  Replaying
an account leads to the state that the act leads to, so the states on the way are
the replays of the beginnings of the account.

Each entry of an account has a scope: how many routines of the host are running,
one within the other, and which compiles and sweeps are under way, with the spans
that were opened for them.  The scope follows from how acts are nested alone; no
logger is asked for it.
-/

namespace CompileOnLoad

variable {Key Memory α β : Type}

inductive Work where
  | compiling (engine : Nat) (source : Path)
  | sweeping (interceptor : Nat)
  deriving DecidableEq, Repr

structure OpenSpan where
  work : Work
  logger : Nat
  id : Nat
  deriving DecidableEq, Repr

/-- Where something happens: the number of routines that are running, and the
spans that are open, the innermost first. -/
structure Scope where
  routines : Nat := 0
  spans : List OpenSpan := []
  deriving DecidableEq, Repr

namespace Scope

def deeper (scope : Scope) : Scope :=
  { scope with routines := scope.routines + 1 }

def opened (scope : Scope) (span : OpenSpan) : Scope :=
  { scope with spans := span :: scope.spans }

def stack (scope : Scope) (logger : Nat) : List Nat :=
  (scope.spans.filter (·.logger = logger)).map (·.id)

end Scope

/-- A change of a host, or a mark of what the host turns to. -/
inductive Change (Key Memory : Type) where
  | log (logger : Nat) (level : Log.Level) (target message : String)
  | enter (span : OpenSpan)
  | leave (span : OpenSpan)
  | editPolicy (handle : Nat) (edit : Policy -> Policy)
  | editSuffixes (edit : List String -> List String)
  | count (engine : Nat) (outcome : Outcome)
  | setActivation (interceptor : Nat) (activation : Activation)
  | enqueue (request : Request)
  /-- The first request leaves the queue. -/
  | take (request : Request)
  | remember (file : LoadedFile)
  | register (priority : Priority) (observer : Observer Key)
  | unregister (id : Nat)
  | store (memory : Memory)
  /-- A load is about to be announced. -/
  | announce (path? : Option Path)
  /-- An observer is about to be told of a load. -/
  | visit (observer : Observer Key) (path? : Option Path)
  /-- The linker has answered. -/
  | link (artifact : Path) (result : Except LoadFailure Unit)

def Change.apply : Change Key Memory -> Host Key Memory -> Host Key Memory
  | log logger level target message, host => host.log logger level target message
  | enter span, host => host.enterSpan span.logger
  | leave span, host => host.leaveSpan span.logger
  | editPolicy handle edit, host => host.updatePolicy handle edit
  | editSuffixes edit, host => { host with suffixes := edit host.suffixes }
  | count engine outcome, host => host.count engine outcome
  | setActivation index activation, host => host.setActivation index activation
  | enqueue request, host => host.enqueue request
  | take _, host => { host with queue := host.queue.tail }
  | remember file, host => host.remember file
  | register priority observer, host => (host.register priority observer).2
  | unregister id, host => (host.unregister id).2
  | store memory, host => { host with memory }
  | announce _, host => host
  | visit _ _, host => host
  | link _ _, host => host

structure Entry (Key Memory : Type) where
  scope : Scope
  change : Change Key Memory

def Host.replay (host : Host Key Memory) (entries : List (Entry Key Memory)) :
    Host Key Memory :=
  entries.foldl (fun host entry => entry.change.apply host) host

theorem Host.replay_append (host : Host Key Memory)
    (entries more : List (Entry Key Memory)) :
    host.replay (entries ++ more) = (host.replay entries).replay more :=
  List.foldl_append

/-- What an act does in a scope: how it ends, and what it changes. -/
abbrev Account (Key Memory α : Type) :=
  Scope -> Host Key Memory -> Ending α × List (Entry Key Memory)

namespace Account

def ended (ending : Ending α) : Account Key Memory α := fun _ _ => (ending, [])

def returned (a : α) : Account Key Memory α := ended (.returned a)

def tell (changes : List (Change Key Memory)) : Account Key Memory Unit :=
  fun scope _ => (.returned (), changes.map (⟨scope, ·⟩))

def andThen (account : Account Key Memory α) (next : α -> Account Key Memory β) :
    Account Key Memory β := fun scope host =>
  match account scope host with
  | (.returned a, entries) =>
      let later := next a scope (host.replay entries)
      (later.1, entries ++ later.2)
  | (.panicked panic, entries) => (.panicked panic, entries)
  | (.exhausted, entries) => (.exhausted, entries)

def look (next : Host Key Memory -> Account Key Memory α) : Account Key Memory α :=
  fun scope host => next host scope host

def byRoutine (account : Account Key Memory α) : Account Key Memory α :=
  fun scope => account scope.deeper

/-- What is done within a new span, which is closed however that ends. -/
def inSpan (work : Work) (logger : Nat) (account : Account Key Memory α) :
    Account Key Memory (Ending α) := fun scope host =>
  let span : OpenSpan := ⟨work, logger, (host.context.logging.logger logger).nextSpan⟩
  let inner := account (scope.opened span) (host.enterSpan logger)
  (.returned inner.1, ⟨scope, .enter span⟩ :: inner.2 ++ [⟨scope, .leave span⟩])

/-!
# What is done by a host
-/

def script (perform : (call : Call Key) -> Account Key Memory call.Answer) :
    Script Key Memory α -> Account Key Memory α
  | .done a => returned a
  | .panic p => ended (.panicked p)
  | .consult next => look fun host => script perform (next host.memory)
  | .store memory next => (tell [.store memory]).andThen fun _ => script perform next
  | .call c next => (perform c).andThen fun answer => script perform (next answer)

section

variable (routines : Routines Key Memory)
variable (perform : (call : Call Key) -> Account Key Memory call.Answer)

def reports (logger : Nat) (errors : List (Nat × PatternError)) :
    List (Change Key Memory) :=
  errors.map fun (index, error) =>
    .log logger .warn Engine.target
      ("ignoring exclusion pattern #" ++ toString index ++ ": " ++ error.message)

def skip (index : Nat) (path? : Option Path) (verdict : Verdict) :
    Account Key Memory Outcome := look fun host =>
  let changes : List (Change Key Memory) := match path? with
    | some path =>
        [.log (host.engine index).logger .trace Engine.target
          ("Skipping " ++ path.text ++ ": " ++ verdict.display)]
    | none => []
  (tell (changes ++ [.count index .skipped])).andThen fun _ => returned .skipped

def succeed (index : Nat) (source artifact : Path) : Account Key Memory Outcome :=
  look fun host =>
    (tell [.enqueue ⟨artifact, .deferred⟩,
      .log (host.engine index).logger .debug Engine.target
        ("Scheduled deferred load of " ++ artifact.text ++ " for " ++ source.text),
      .count index (.compiled artifact)]).andThen fun _ =>
        returned (.compiled artifact)

def fail (index : Nat) (source : Path) (failure : CompileFailure) :
    Account Key Memory Outcome := look fun host =>
  (tell [.log (host.engine index).logger .warn Engine.target
      ("Failed to compile " ++ source.text ++ ": " ++ failure.message),
    .count index (.failed failure)]).andThen fun _ => returned (.failed failure)

def settle (index : Nat) (source : Path) :
    Ending (Except CompileFailure Path) -> Account Key Memory Outcome
  | .returned (.ok artifact) => succeed index source artifact
  | .returned (.error failure) => fail index source failure
  | .panicked panic => fail index source (.panicked source (Engine.panicMessage panic))
  | .exhausted => ended .exhausted

def compileEligible (index : Nat) (source : Path) : Account Key Memory Outcome :=
  look fun host =>
    (inSpan (.compiling index source) (host.engine index).logger
      (byRoutine (script perform (routines.compile index source)))).andThen
        (settle index source)

def compile (index : Nat) (path? : Option Path) : Account Key Memory Outcome :=
  look fun host =>
    let logger := (host.engine index).logger
    let policy := host.policy (host.engine index).policy
    let judgement := judge path? policy host.suffixes
    (tell (reports logger judgement.errors)).andThen fun _ =>
      match path?, judgement.verdict with
      | some source, .eligible =>
          let progress : Log.Level := if policy.verbose then .info else .debug
          (tell [.log logger progress Engine.target
            ("Compiling " ++ source.text)]).andThen fun _ =>
              compileEligible routines perform index source
      | path?, verdict => skip index path? verdict

def visit (path? : Option Path) : Observer Key -> Account Key Memory Disposition
  | .hook engine =>
      (compile routines perform engine path?).andThen fun outcome =>
        returned outcome.disposition
  | .action _ key => byRoutine (script perform (routines.observe key path?))

def visitReports (logger : Nat) (path? : Option Path) (name : String)
    (disposition : Disposition) : List (Change Key Memory) :=
  let trace : Change Key Memory := .log logger .trace Host.pipelineTarget
    ("observer " ++ name ++ " -> " ++ disposition.label)
  match disposition with
  | .passThrough => [trace]
  | .handled =>
      [trace, .log logger .debug Host.pipelineTarget
        ("load of " ++ Host.pathText path? ++ " handled by " ++ name ++
          "; remaining after-load actions suppressed")]

def visitAll (path? : Option Path) :
    List (Observer Key) -> Account Key Memory DispatchReport
  | [] => returned {}
  | observer :: rest =>
      (tell [.visit observer path?]).andThen fun _ =>
        (visit routines perform path? observer).andThen fun disposition =>
          look fun host =>
            (tell (visitReports host.logger path? observer.name disposition)).andThen
              fun _ =>
                match disposition with
                | .handled =>
                    returned { ran := [observer.name], handledBy := some observer.name }
                | .passThrough =>
                    (visitAll path? rest).andThen fun report =>
                      returned { report with ran := observer.name :: report.ran }

def announce (path? : Option Path) : Account Key Memory DispatchReport :=
  look fun host =>
    (tell [.announce path?]).andThen fun _ =>
      visitAll routines perform path? host.pipeline.observers

def load (source : Path) : Account Key Memory DispatchReport :=
  (tell [.remember ⟨source, none⟩]).andThen fun _ =>
    announce routines perform (some source)

def execute (artifact : Path) : Account Key Memory (Except LoadFailure Unit) :=
  (byRoutine (script perform (routines.link artifact))).andThen fun linked =>
    (tell [.link artifact linked]).andThen fun _ =>
      look fun host =>
        match linked with
        | .ok () =>
            (tell [.log host.logger .debug Host.queueTarget
              ("Loaded " ++ artifact.text)]).andThen fun _ =>
                (announce routines perform (some artifact)).andThen fun _ =>
                  returned (.ok ())
        | .error failure =>
            (tell [.log host.logger .error Host.queueTarget failure.message]).andThen
              fun _ => returned (.error failure)

def runRequests : Nat -> Account Key Memory RunReport
  | 0 => returned {}
  | n + 1 =>
      look fun host =>
        match host.queue with
        | [] => returned {}
        | request :: _ =>
            (tell [.take request]).andThen fun _ =>
              (execute routines perform request.artifact).andThen fun result =>
                (runRequests n).andThen fun report =>
                  returned (RunReport.note request.artifact result report)

def runPending : Account Key Memory RunReport :=
  look fun host => runRequests routines perform host.queue.length

def sweepFiles (engine : Nat) :
    SweepReport -> List LoadedFile -> Account Key Memory SweepReport
  | report, [] => returned report
  | report, file :: rest =>
      (compile routines perform engine (some file.source)).andThen fun outcome =>
        sweepFiles engine (report.note outcome) rest

def sweepBody (logger engine : Nat) (files : List LoadedFile) :
    Account Key Memory SweepReport :=
  (tell [.log logger .debug Interceptor.target
    ("sweeping " ++ toString files.length ++ " previously loaded files")]).andThen fun _ =>
      (sweepFiles routines perform engine {} files).andThen fun report =>
        (tell [.log logger .debug Interceptor.target
          ("sweep done: " ++ toString report.tally.compiled ++ " compiled, " ++
            toString report.tally.skipped ++ " skipped, " ++
            toString report.tally.failed ++ " failed")]).andThen fun _ =>
              returned report

def sweep (index : Nat) : Account Key Memory SweepReport := look fun host =>
  let interceptor := host.interceptor index
  (inSpan (.sweeping index) interceptor.logger
    (sweepBody routines perform interceptor.logger interceptor.engine
      host.history)).andThen ended

def enable (index : Nat) : Account Key Memory (Option SweepReport) := look fun host =>
  let interceptor := host.interceptor index
  if interceptor.activation.isActive then
    (tell [.log interceptor.logger .debug Interceptor.target
      "interception already enabled"]).andThen fun _ => returned none
  else
    (tell [.register Priority.reserved (.hook interceptor.engine),
      .setActivation index (.active host.pipeline.nextId),
      .log interceptor.logger .info Interceptor.target
        "interception enabled"]).andThen fun _ =>
          (sweep routines perform index).andThen fun report => returned (some report)

def disable (index : Nat) : Account Key Memory Bool := look fun host =>
  let interceptor := host.interceptor index
  match interceptor.activation with
  | .inactive => returned false
  | .active hook =>
      let missing : List (Change Key Memory) :=
        if (host.pipeline.unregister hook).1 then []
        else
          [.log interceptor.logger .debug Interceptor.target
            ("hook " ++ Activation.hookShown hook ++
              " was already removed from the pipeline")]
      (tell (.setActivation index .inactive :: .unregister hook :: missing ++
        [.log interceptor.logger .info Interceptor.target
          "interception disabled"])).andThen fun _ => returned true

def handle (index : Nat) (path? : Option Path) : Account Key Memory Disposition :=
  look fun host =>
    (compile routines perform (host.interceptor index).engine path?).andThen
      fun outcome => returned outcome.disposition

end

/-- What is done for a call, with calls nested to at most the given depth in those
routines that it runs. -/
def perform (routines : Routines Key Memory) (depth : Nat) :
    (call : Call Key) -> Account Key Memory call.Answer
  | .register priority name key =>
      look fun host =>
        (tell [.register priority (.action name key)]).andThen fun _ =>
          returned host.pipeline.nextId
  | .unregister id =>
      look fun host =>
        (tell [.unregister id]).andThen fun _ =>
          returned (host.pipeline.unregister id).1
  | .enqueue request => tell [.enqueue request]
  | .editPolicy handle edit => tell [.editPolicy handle edit]
  | .load source =>
      match depth with
      | 0 => ended .exhausted
      | depth + 1 => load routines (perform routines depth) source
  | .announce path? =>
      match depth with
      | 0 => ended .exhausted
      | depth + 1 => announce routines (perform routines depth) path?
  | .runPending =>
      match depth with
      | 0 => ended .exhausted
      | depth + 1 => runPending routines (perform routines depth)
  | .compile engine path? =>
      match depth with
      | 0 => ended .exhausted
      | depth + 1 => compile routines (perform routines depth) engine path?

end Account

def Operation.account (routines : Routines Key Memory) (depth : Nat) :
    (operation : Operation Key) -> Account Key Memory operation.Answer
  | call c => Account.perform routines (depth + 1) c
  | enable index => Account.enable routines (Account.perform routines depth) index
  | disable index => Account.disable index
  | drop index => (Account.disable index).andThen fun _ => Account.returned ()
  | handle index path? =>
      Account.handle routines (Account.perform routines depth) index path?
  | editSuffixes edit => Account.tell [.editSuffixes edit]

def Host.told (routines : Routines Key Memory) (depth : Nat) :
    List (Operation Key) -> Host Key Memory -> List (Entry Key Memory)
  | [], _ => []
  | operation :: rest, host =>
      let entries := (operation.account routines depth {} host).2
      entries ++ told routines depth rest (host.replay entries)

namespace Account

/-!
# Accounts are true
-/

/-- The account says how the act ends, and leads to where the act leads to. -/
def Tells (account : Account Key Memory α) (act : Act Key Memory α) : Prop :=
  forall scope host,
    act host = ((account scope host).1, host.replay (account scope host).2)

theorem tells_returned (a : α) :
    Tells (returned a) (fun host : Host Key Memory => (.returned a, host)) := by
  intro scope host
  rfl

theorem tells_ended (ending : Ending α) :
    Tells (ended ending) (fun host : Host Key Memory => (ending, host)) := by
  intro scope host
  rfl

theorem replay_map_changes (scope : Scope) (changes : List (Change Key Memory))
    (host : Host Key Memory) :
    host.replay (changes.map (⟨scope, ·⟩)) =
      changes.foldl (fun host change => change.apply host) host :=
  List.foldl_map

theorem tells_tell (changes : List (Change Key Memory)) :
    Tells (tell changes) fun host =>
      (.returned (), changes.foldl (fun host change => change.apply host) host) := by
  intro scope host
  exact Prod.ext rfl (replay_map_changes scope changes host).symm

theorem tells_andThen {account : Account Key Memory α} {act : Act Key Memory α}
    {next : α -> Account Key Memory β} {later : α -> Act Key Memory β}
    (hact : account.Tells act) (hnext : forall a, (next a).Tells (later a)) :
    (account.andThen next).Tells (act.andThen later) := by
  intro scope host
  unfold Act.andThen andThen
  rw [hact scope host]
  rcases account scope host with ⟨ending, entries⟩
  cases ending with
  | returned a =>
      simp only
      rw [hnext a scope (host.replay entries), Host.replay_append]
  | panicked panic => rfl
  | exhausted => rfl

theorem Tells.after {account : Account Key Memory α} {act : Act Key Memory α}
    (h : account.Tells act) (changes : List (Change Key Memory)) :
    ((tell changes).andThen fun _ => account).Tells fun host =>
      act (changes.foldl (fun host change => change.apply host) host) :=
  tells_andThen (tells_tell changes) fun _ => h

theorem tells_byRoutine {account : Account Key Memory α} {act : Act Key Memory α}
    (h : account.Tells act) : account.byRoutine.Tells act := by
  intro scope host
  exact h scope.deeper host

theorem tells_inSpan (work : Work) (logger : Nat) {account : Account Key Memory α}
    {act : Act Key Memory α} (h : account.Tells act) :
    (account.inSpan work logger).Tells fun host =>
      (.returned (act (host.enterSpan logger)).1,
        (act (host.enterSpan logger)).2.leaveSpan logger) := by
  intro scope host
  simp only [inSpan]
  rw [h (scope.opened _) (host.enterSpan logger), List.cons_append]
  refine Prod.ext rfl ?_
  show _ = (host.enterSpan logger).replay (_ ++ [_])
  rw [Host.replay_append]
  rfl

variable {accounts : (call : Call Key) -> Account Key Memory call.Answer}
variable {acts : Performer Key Memory}

theorem tells_script (hcalls : forall call, (accounts call).Tells (acts call))
    (s : Script Key Memory α) : (script accounts s).Tells (s.run acts) := by
  induction s with
  | done a => exact tells_returned a
  | panic p => exact tells_ended (.panicked p)
  | consult next ih =>
      intro scope host
      exact ih host.memory scope host
  | store memory next ih => exact ih.after [.store memory]
  | call c next ih => exact tells_andThen (hcalls c) ih

theorem reportErrors_eq_foldl (logger : Nat) (errors : List (Nat × PatternError))
    (host : Host Key Memory) :
    Engine.reportErrors logger errors host =
      (reports logger errors).foldl (fun host change => change.apply host) host := by
  unfold Engine.reportErrors reports
  rw [List.foldl_map]
  rfl

theorem tells_skip (index : Nat) (path? : Option Path) (verdict : Verdict) :
    (skip index path? verdict).Tells
      (Act.ofPure fun host : Host Key Memory => Engine.skip index path? verdict host) := by
  intro scope host
  cases path? with
  | none => rfl
  | some path => rfl

theorem tells_succeed (index : Nat) (source artifact : Path) :
    (succeed index source artifact).Tells
      (Act.ofPure fun host : Host Key Memory =>
        Engine.succeed index source artifact host) := by
  intro scope host
  rfl

theorem tells_fail (index : Nat) (source : Path) (failure : CompileFailure) :
    (fail index source failure).Tells
      (Act.ofPure fun host : Host Key Memory =>
        Engine.fail index source failure host) := by
  intro scope host
  rfl

theorem tells_settle (index : Nat) (source : Path)
    (ending : Ending (Except CompileFailure Path)) :
    (settle index source ending).Tells fun host : Host Key Memory =>
      match ending with
      | .returned (.ok artifact) =>
          Act.ofPure (Engine.succeed index source artifact) host
      | .returned (.error failure) =>
          Act.ofPure (Engine.fail index source failure) host
      | .panicked panic =>
          Act.ofPure (Engine.fail index source
            (.panicked source (Engine.panicMessage panic))) host
      | .exhausted => (.exhausted, host) := by
  cases ending with
  | returned result =>
      cases result with
      | ok artifact => exact tells_succeed index source artifact
      | error failure => exact tells_fail index source failure
  | panicked panic => exact tells_fail index source _
  | exhausted => exact tells_ended .exhausted

variable (routines : Routines Key Memory)

theorem tells_compileEligible
    (hcalls : forall call, (accounts call).Tells (acts call))
    (index : Nat) (source : Path) :
    (compileEligible routines accounts index source).Tells
      (Engine.compileEligible routines acts index source) := by
  intro scope host
  have hcompiled := tells_inSpan (.compiling index source) (host.engine index).logger
    (tells_byRoutine (tells_script hcalls (routines.compile index source)))
  exact (tells_andThen hcompiled (tells_settle index source)) scope host

theorem tells_compile (hcalls : forall call, (accounts call).Tells (acts call))
    (index : Nat) (path? : Option Path) :
    (compile routines accounts index path?).Tells
      (Engine.compile routines acts index path?) := by
  intro scope host
  unfold Engine.compile compile look
  simp only [reportErrors_eq_foldl]
  generalize judge path? _ host.suffixes = judgement
  cases path? with
  | none => exact (tells_skip index none _).after (reports _ _) scope host
  | some source =>
      cases judgement.verdict with
      | eligible =>
          exact ((tells_compileEligible routines hcalls index source).after
            [.log _ _ _ _]).after
            (reports _ _) scope host
      | noPath => exact (tells_skip index (some source) _).after (reports _ _) scope host
      | unrecognizedSuffix =>
          exact (tells_skip index (some source) _).after (reports _ _) scope host
      | excluded rule pattern =>
          exact (tells_skip index (some source) _).after (reports _ _) scope host

theorem tells_visit (hcalls : forall call, (accounts call).Tells (acts call))
    (path? : Option Path) (observer : Observer Key) :
    (visit routines accounts path? observer).Tells
      (Host.visit routines acts path? observer) := by
  cases observer with
  | hook engine =>
      apply tells_andThen (tells_compile routines hcalls engine path?)
      intro outcome
      exact tells_returned outcome.disposition
  | action name key => exact tells_byRoutine (tells_script hcalls _)

theorem reportVisit_eq_foldl (path? : Option Path) (name : String)
    (disposition : Disposition) (host : Host Key Memory) :
    Host.reportVisit path? name disposition host =
      (visitReports host.logger path? name disposition).foldl
        (fun host change => change.apply host) host := by
  cases disposition with
  | handled => rfl
  | passThrough => rfl

theorem tells_visitAll (hcalls : forall call, (accounts call).Tells (acts call))
    (path? : Option Path) (observers : List (Observer Key)) :
    (visitAll routines accounts path? observers).Tells
      (Host.visitAll routines acts path? observers) := by
  induction observers with
  | nil => exact tells_returned _
  | cons observer rest ih =>
      refine Tells.after (tells_andThen (tells_visit routines hcalls path? observer) ?_)
        [.visit observer path?]
      intro disposition scope host
      simp only [look, reportVisit_eq_foldl]
      cases disposition with
      | handled => exact (tells_returned _).after (visitReports _ _ _ _) scope host
      | passThrough =>
          have hrest := tells_andThen ih fun report =>
            tells_returned { report with ran := observer.name :: report.ran }
          exact hrest.after (visitReports _ _ _ _) scope host

theorem tells_announce (hcalls : forall call, (accounts call).Tells (acts call))
    (path? : Option Path) :
    (announce routines accounts path?).Tells (Host.announce routines acts path?) := by
  intro scope host
  exact (tells_visitAll routines hcalls path? host.pipeline.observers).after [.announce path?]
    scope host

theorem tells_load (hcalls : forall call, (accounts call).Tells (acts call))
    (source : Path) :
    (load routines accounts source).Tells (Host.load routines acts source) :=
  (tells_announce routines hcalls (some source)).after [.remember ⟨source, none⟩]

theorem tells_execute (hcalls : forall call, (accounts call).Tells (acts call))
    (artifact : Path) :
    (execute routines accounts artifact).Tells (Host.execute routines acts artifact) := by
  apply tells_andThen (tells_byRoutine (tells_script hcalls _))
  intro linked scope host
  cases linked with
  | ok _ =>
      have hannounced := tells_andThen
        (tells_announce routines hcalls (some artifact))
        fun _ => tells_returned (Except.ok () : Except LoadFailure Unit)
      exact (hannounced.after [.log host.logger _ _ _]).after [.link artifact _] scope host
  | error failure => rfl

theorem tells_runRequests (hcalls : forall call, (accounts call).Tells (acts call))
    (n : Nat) :
    (runRequests routines accounts n).Tells (Host.runRequests routines acts n) := by
  induction n with
  | zero => exact tells_returned _
  | succ n ih =>
      intro scope host
      simp only [Host.runRequests, runRequests, look]
      cases hqueue : host.queue with
      | nil => rfl
      | cons request queue =>
          have hexecuted := tells_andThen (tells_execute routines hcalls request.artifact)
            fun result => tells_andThen ih fun report =>
              tells_returned (RunReport.note request.artifact result report)
          have htaken := hexecuted.after [.take request] scope host
          simp only [List.foldl_cons, List.foldl_nil, Change.apply, hqueue,
            List.tail_cons] at htaken
          exact htaken

theorem tells_runPending (hcalls : forall call, (accounts call).Tells (acts call)) :
    (runPending routines accounts).Tells (Host.runPending routines acts) := by
  intro scope host
  exact tells_runRequests routines hcalls host.queue.length scope host

theorem tells_sweepFiles (hcalls : forall call, (accounts call).Tells (acts call))
    (engine : Nat) (files : List LoadedFile) (report : SweepReport) :
    (sweepFiles routines accounts engine report files).Tells
      (Interceptor.sweepFiles routines acts engine report files) := by
  induction files generalizing report with
  | nil => exact tells_returned report
  | cons file rest ih =>
      apply tells_andThen (tells_compile routines hcalls engine (some file.source))
      intro outcome
      exact ih (report.note outcome)

theorem tells_sweep (hcalls : forall call, (accounts call).Tells (acts call))
    (index : Nat) :
    (sweep routines accounts index).Tells (Interceptor.sweep routines acts index) := by
  intro scope host
  have hfiles := tells_sweepFiles routines hcalls (host.interceptor index).engine
    host.history {}
  have hbody := (tells_andThen hfiles fun report =>
    (tells_returned report).after
      [.log (host.interceptor index).logger .debug Interceptor.target
        ("sweep done: " ++ toString report.tally.compiled ++ " compiled, " ++
          toString report.tally.skipped ++ " skipped, " ++
          toString report.tally.failed ++ " failed")]).after
    [.log (host.interceptor index).logger .debug Interceptor.target
      ("sweeping " ++ toString host.history.length ++ " previously loaded files")]
  have hswept := tells_andThen
    (tells_inSpan (.sweeping index) (host.interceptor index).logger hbody) tells_ended
  refine Eq.trans ?_ (hswept scope host)
  unfold Interceptor.sweep
  simp only [Act.andThen, List.foldl_cons, List.foldl_nil, Change.apply]
  generalize Interceptor.sweepFiles routines acts _ _ _ _ = swept
  rcases swept with ⟨ending, after⟩
  cases ending with
  | returned report => rfl
  | panicked panic => rfl
  | exhausted => rfl

theorem tells_enable (hcalls : forall call, (accounts call).Tells (acts call))
    (index : Nat) :
    (enable routines accounts index).Tells (Interceptor.enable routines acts index) := by
  intro scope host
  unfold Interceptor.enable enable look
  simp only
  cases (host.interceptor index).activation.isActive with
  | true => rfl
  | false =>
      have hswept := tells_andThen (tells_sweep routines hcalls index) fun report =>
        tells_returned (some report)
      exact hswept.after [.register _ _, .setActivation _ _, .log _ _ _ _] scope host

theorem tells_disable (index : Nat) :
    (disable index).Tells
      (Act.ofPure fun host : Host Key Memory => Interceptor.disable index host) := by
  intro scope host
  unfold Interceptor.disable disable look Act.ofPure
  simp only
  cases (host.interceptor index).activation with
  | inactive => rfl
  | active hook =>
      have hmissing : ((host.setActivation index .inactive).unregister hook).1 =
          (host.pipeline.unregister hook).1 := rfl
      simp only [hmissing]
      cases (host.pipeline.unregister hook).1 with
      | true => rfl
      | false => rfl

theorem tells_handle (hcalls : forall call, (accounts call).Tells (acts call))
    (index : Nat) (path? : Option Path) :
    (handle routines accounts index path?).Tells
      (Interceptor.handle routines acts index path?) := by
  intro scope host
  have hcompiled := tells_andThen
    (tells_compile routines hcalls (host.interceptor index).engine path?)
    fun outcome => tells_returned outcome.disposition
  exact hcompiled scope host

theorem tells_perform (depth : Nat) (call : Call Key) :
    (perform routines depth call).Tells (Host.perform routines depth call) := by
  induction depth generalizing call with
  | zero =>
      cases call with
      | register priority name key => intro scope host; rfl
      | unregister id => intro scope host; rfl
      | enqueue request => intro scope host; rfl
      | editPolicy handle edit => intro scope host; rfl
      | load source => exact tells_ended .exhausted
      | announce path? => exact tells_ended .exhausted
      | runPending => exact tells_ended .exhausted
      | compile engine path? => exact tells_ended .exhausted
  | succ depth ih =>
      cases call with
      | register priority name key => intro scope host; rfl
      | unregister id => intro scope host; rfl
      | enqueue request => intro scope host; rfl
      | editPolicy handle edit => intro scope host; rfl
      | load source => exact tells_load routines ih source
      | announce path? => exact tells_announce routines ih path?
      | runPending => exact tells_runPending routines ih
      | compile engine path? => exact tells_compile routines ih engine path?

theorem tells_operation (depth : Nat) (operation : Operation Key) :
    (operation.account routines depth).Tells (operation.act routines depth) := by
  cases operation with
  | call c => exact tells_perform routines (depth + 1) c
  | enable index => exact tells_enable routines (tells_perform routines depth) index
  | disable index => exact tells_disable index
  | drop index =>
      exact tells_andThen (tells_disable index) fun _ => tells_returned ()
  | handle index path? =>
      exact tells_handle routines (tells_perform routines depth) index path?
  | editSuffixes edit => intro scope host; rfl

end Account

theorem Host.foldl_act_eq_replay (routines : Routines Key Memory) (depth : Nat)
    (operations : List (Operation Key)) (host : Host Key Memory) :
    operations.foldl (fun host operation => (operation.act routines depth host).2) host =
      host.replay (told routines depth operations host) := by
  induction operations generalizing host with
  | nil => rfl
  | cons operation rest ih =>
      have hfirst := Account.tells_operation routines depth operation {} host
      simp only [List.foldl_cons, told]
      rw [hfirst, Host.replay_append]
      exact ih _

end CompileOnLoad
