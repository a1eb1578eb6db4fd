import CompileOnLoad.Proofs.OwnChanges
import CompileOnLoad.Proofs.Spans

/-!
# Spans of records

Each record names the innermost open span of the logger that has made it.  What a
compiler does is done within the span of its compile, and what an engine does in a
sweep within the span of the sweep.  What an engine reports of a compile, before and
after it, is reported outside of the span of that compile.
-/

namespace CompileOnLoad

variable {Key Memory α β : Type}

namespace Log

/-- Records that are given to a logger come to another one, or are its own. -/
inductive LeadsTo (loggers : List Logger) : Nat -> Nat -> Prop where
  | refl {index : Nat} : LeadsTo loggers index index
  | sink {index earlier last : Nat} {logger : Logger} (found : loggers[index]? = some logger)
      (attached : Sink.logger earlier ∈ logger.sinks)
      (rest : LeadsTo loggers earlier last) : LeadsTo loggers index last

/-- A record is delivered as one of the loggers on the way has made it. -/
theorem record_of_mem_deliveries {loggers : List Logger} {now : UInt64} {index : Nat}
    {level : Level} {target message : String} {delivery : Delivery}
    (hmem : delivery ∈ deliveries loggers now index level target message) :
    exists last logger, LeadsTo loggers index last ∧ loggers[last]? = some logger ∧
      delivery.record = logger.record now level target message := by
  induction index using Nat.strongRecOn with
  | ind index ih =>
      rw [deliveries] at hmem
      cases hfound : loggers[index]? with
      | none =>
          rw [hfound] at hmem
          cases hmem
      | some logger =>
          simp only [hfound] at hmem
          split at hmem
          · rcases List.mem_flatMap.mp hmem with ⟨sink, hsink, hdelivered⟩
            split at hdelivered
            · next earlier =>
                split at hdelivered
                · next hearlier =>
                    rcases ih earlier hearlier hdelivered with ⟨last, maker, hleads, hmaker⟩
                    exact ⟨last, maker, .sink hfound hsink hleads, hmaker⟩
                · cases hdelivered
            · rw [List.mem_singleton.mp hdelivered]
              exact ⟨index, logger, .refl, hfound, rfl⟩
          · cases hmem

end Log

/-- The records that an entry delivers name the innermost span of its scope, or else
the innermost of those that were open before. -/
def Entry.IsAttributed (start host : Host Key Memory) (entry : Entry Key Memory) : Prop :=
  match entry.change with
  | .log logger level target message =>
      forall delivery,
        delivery ∈ host.context.logging.deliveries logger level target message ->
          exists last, Log.LeadsTo host.loggers logger last ∧
            delivery.record.span = (entry.scope.stack last ++ start.spans last).head?
  | _ => True

namespace Host

theorem isAttributed_of_standsOn {start host : Host Key Memory}
    {entry : Entry Key Memory} (hlength : host.loggers.length = start.loggers.length)
    (h : forall logger, logger < start.loggers.length ->
      entry.StandsOn logger (start.spans logger) host) :
    entry.IsAttributed start host := by
  rcases entry with ⟨scope, change⟩
  cases change with
  | log index level target message =>
      intro delivery hmem
      rcases Log.record_of_mem_deliveries hmem with ⟨last, logger, hleads, hlogger, hrecord⟩
      have hin : last < host.loggers.length := (List.getElem?_eq_some_iff.mp hlogger).1
      rw [hlength] at hin
      have hstack := h last hin trivial
      have hspans : host.spans last = logger.spans := by
        unfold spans Log.Logging.logger
        rw [List.getD_eq_getElem?_getD, hlogger]
        rfl
      rw [hspans] at hstack
      refine ⟨last, hleads, ?_⟩
      rw [hrecord, ← hstack]
      rfl
  | _ => trivial

theorem isAttributed_told (routines : Routines Key Memory) (depth : Nat)
    (operations : List (Operation Key)) (start : Host Key Memory) :
    start.Throughout (Entry.IsAttributed start) (told routines depth operations start) := by
  have hgeneral (entries : List (Entry Key Memory)) (host : Host Key Memory)
      (hlength : host.loggers.length = start.loggers.length)
      (h : forall logger, logger < start.loggers.length ->
        host.Throughout (Entry.StandsOn logger (start.spans logger)) entries) :
      host.Throughout (Entry.IsAttributed start) entries := by
    induction entries generalizing host with
    | nil => trivial
    | cons entry rest ih =>
        constructor
        · exact isAttributed_of_standsOn hlength fun logger hin => (h logger hin).1
        · apply ih
          · rw [length_loggers_apply]
            exact hlength
          · intro logger hin
            exact (h logger hin).2
  apply hgeneral _ _ rfl
  intro logger hin
  exact standsOn_told routines depth operations start hin

end Host

/-!
# Who logs for whom
-/

namespace Host

theorem logger_engine_apply (change : Change Key Memory) (host : Host Key Memory)
    (index : Nat) :
    ((change.apply host).engine index).logger = (host.engine index).logger := by
  cases change with
  | count engine outcome =>
      unfold Change.apply count Host.engine
      rw [List.getD_eq_getElem?_getD, List.getD_eq_getElem?_getD, List.getElem?_modify]
      cases host.engines[index]? with
      | none => rfl
      | some found => split <;> rfl
  | _ => rfl

theorem logger_engine_replay (entries : List (Entry Key Memory)) (host : Host Key Memory)
    (index : Nat) :
    ((host.replay entries).engine index).logger = (host.engine index).logger := by
  induction entries generalizing host with
  | nil => rfl
  | cons entry rest ih => exact (ih _).trans (logger_engine_apply entry.change host index)

theorem logger_interceptor_setActivation (host : Host Key Memory) (index other : Nat)
    (activation : Activation) :
    ((host.setActivation other activation).interceptor index).logger =
      (host.interceptor index).logger := by
  unfold setActivation Host.interceptor
  rw [List.getD_eq_getElem?_getD, List.getD_eq_getElem?_getD, List.getElem?_modify]
  cases host.interceptors[index]? with
  | none => rfl
  | some found => split <;> rfl

end Host

/-!
# Compiles
-/

namespace Account

theorem mem_andThen {account : Account Key Memory α} {next : α -> Account Key Memory β}
    {scope : Scope} {host : Host Key Memory} {entry : Entry Key Memory}
    (hmem : entry ∈ ((account.andThen next) scope host).2) :
    entry ∈ (account scope host).2 ∨
      exists a, entry ∈ (next a scope (host.replay (account scope host).2)).2 := by
  revert hmem
  unfold andThen
  rcases account scope host with ⟨ending, entries⟩
  intro hmem
  cases ending with
  | returned a =>
      rcases List.mem_append.mp hmem with hfirst | hlater
      · exact .inl hfirst
      · exact .inr ⟨a, hlater⟩
  | panicked panic => exact .inl hmem
  | exhausted => exact .inl hmem

/-- All is done right in the scope. -/
def IsFlat (account : Account Key Memory α) : Prop :=
  forall scope host entry, entry ∈ (account scope host).2 -> entry.scope = scope

theorem isFlat_tell (changes : List (Change Key Memory)) : (tell changes).IsFlat := by
  intro scope host entry hmem
  rcases List.mem_map.mp hmem with ⟨change, -, rfl⟩
  rfl

theorem holdsOfTelling_isFlat :
    HoldsOfTelling (fun {_} (account : Account Key Memory _) => account.IsFlat) where
  ended ending := by
    intro scope host entry hmem
    cases hmem
  tell {changes} _ := isFlat_tell changes
  andThen haccount hnext := by
    intro scope host entry hmem
    rcases mem_andThen hmem with hfirst | ⟨a, hlater⟩
    · exact haccount scope host entry hfirst
    · exact hnext a scope _ entry hlater
  look h := by
    intro scope host entry hmem
    exact h host scope host entry hmem

variable (routines : Routines Key Memory)
variable {accounts : (call : Call Key) -> Account Key Memory call.Answer}

/-- What is not done by the engine itself is done by its compiler, in the span of the
compile. -/
theorem placed_compileEligible (hcalls : forall call, (accounts call).IsNested)
    {index : Nat} {source : Path} {scope : Scope} {host : Host Key Memory}
    {entry : Entry Key Memory}
    (hmem : entry ∈ (compileEligible routines accounts index source scope host).2) :
    entry.scope = scope ∨ exists id,
      (scope.opened ⟨.compiling index source, (host.engine index).logger, id⟩).deeper.Holds
        entry.scope := by
  simp only [compileEligible, look] at hmem
  rcases mem_andThen hmem with hspan | ⟨ending, hsettled⟩
  · rcases List.mem_append.mp hspan with hstart | hend
    · rcases List.mem_cons.mp hstart with henter | hinner
      · rw [henter]
        exact .inl rfl
      · have hnested := isNested_script hcalls (routines.compile index source)
        exact .inr ⟨_, (hnested _ _).holds hinner⟩
    · rw [List.mem_singleton.mp hend]
      exact .inl rfl
  · exact .inl (holdsOfTelling_isFlat.settle index source ending scope _ entry hsettled)

theorem placed_compile (hcalls : forall call, (accounts call).IsNested) {index : Nat}
    {path? : Option Path} {scope : Scope} {host : Host Key Memory}
    {entry : Entry Key Memory}
    (hmem : entry ∈ (compile routines accounts index path? scope host).2) :
    entry.scope = scope ∨ exists source id, path? = some source ∧
      (scope.opened ⟨.compiling index source, (host.engine index).logger, id⟩).deeper.Holds
        entry.scope := by
  simp only [compile, look] at hmem
  rcases mem_andThen hmem with hreport | ⟨_, hmem⟩
  · exact .inl (isFlat_tell _ scope host entry hreport)
  · cases path? with
    | none => exact .inl (holdsOfTelling_isFlat.skip index none _ scope _ entry hmem)
    | some source =>
        generalize (judge (some source) _ _).verdict = verdict at hmem
        cases verdict with
        | eligible =>
            rcases mem_andThen hmem with hprogress | ⟨_, hmem⟩
            · exact .inl (isFlat_tell _ scope _ entry hprogress)
            · rcases placed_compileEligible routines hcalls hmem with hown | ⟨id, hinner⟩
              · exact .inl hown
              · rw [Host.logger_engine_replay, Host.logger_engine_replay] at hinner
                exact .inr ⟨source, id, rfl, hinner⟩
        | _ => exact .inl (holdsOfTelling_isFlat.skip index _ _ scope _ entry hmem)

def isLog : Change Key Memory -> Bool
  | .log _ _ _ _ => true
  | _ => false

def outcomeRecords (logger : Nat) (source : Path) :
    Ending Outcome -> List (Change Key Memory)
  | .returned (.compiled artifact) =>
      [.log logger .debug Engine.target
        ("Scheduled deferred load of " ++ artifact.text ++ " for " ++ source.text)]
  | .returned (.failed failure) =>
      [.log logger .warn Engine.target
        ("Failed to compile " ++ source.text ++ ": " ++ failure.message)]
  | _ => []

theorem ownLogs_settle (index : Nat) (source : Path)
    (ending : Ending (Except CompileFailure Path)) (scope : Scope) (host : Host Key Memory) :
    ownChanges isLog scope (settle index source ending scope host).2 =
      outcomeRecords (host.engine index).logger source
        (settle index source ending scope host).1 := by
  cases ending with
  | returned result =>
      cases result with
      | ok artifact =>
          unfold settle succeed look
          rw [ownChanges_tell_andThen]
          rfl
      | error failure =>
          unfold settle fail look
          rw [ownChanges_tell_andThen]
          rfl
  | panicked panic =>
      unfold settle fail look
      rw [ownChanges_tell_andThen]
      rfl
  | exhausted => rfl

theorem ownLogs_compileEligible (hcalls : forall call, (accounts call).IsNested)
    (index : Nat) (source : Path) (scope : Scope) (host : Host Key Memory) :
    ownChanges isLog scope (compileEligible routines accounts index source scope host).2 =
      outcomeRecords (host.engine index).logger source
        (compileEligible routines accounts index source scope host).1 := by
  have hidle : ((script accounts (routines.compile index source)).byRoutine.inSpan
      (.compiling index source) (host.engine index).logger).IsIdle isLog :=
    isIdle_inSpan_byRoutine (fun _ => rfl) (fun _ => rfl) (isNested_script hcalls _) _ _
  have hspan := hidle scope host
  simp only [compileEligible, look]
  rcases hrun : inSpan (.compiling index source) (host.engine index).logger
    (script accounts (routines.compile index source)).byRoutine scope host
    with ⟨ending, entries⟩
  rw [hrun] at hspan
  cases ending with
  | returned ending =>
      rw [andThen_of_returned hrun, ownChanges_append, hspan, ownLogs_settle,
        Host.logger_engine_replay]
      rfl
  | panicked panic => cases congrArg Prod.fst hrun
  | exhausted => cases congrArg Prod.fst hrun

theorem filter_isLog_reports (logger : Nat) (errors : List (Nat × PatternError)) :
    (reports logger errors : List (Change Key Memory)).filter isLog =
      reports logger errors := by
  apply List.filter_eq_self.mpr
  intro change hmem
  rcases List.mem_map.mp hmem with ⟨error, -, rfl⟩
  rfl

/-- The records of a compile are its engine's, and are made in the scope of the
compile. -/
theorem ownLogs_compile (hcalls : forall call, (accounts call).IsNested) {index : Nat}
    {source : Path} {host : Host Key Memory}
    (heligible : host.isEligible index (some source) = true) (scope : Scope) :
    ownChanges isLog scope (compile routines accounts index (some source) scope host).2 =
      reports (host.engine index).logger
          (judge (some source) (host.policy (host.engine index).policy)
            host.suffixes).errors ++
        .log (host.engine index).logger
          (if (host.policy (host.engine index).policy).verbose then .info else .debug)
          Engine.target ("Compiling " ++ source.text) ::
        outcomeRecords (host.engine index).logger source
          (compile routines accounts index (some source) scope host).1 := by
  have hverdict : (judge (some source) (host.policy (host.engine index).policy)
      host.suffixes).verdict = .eligible := of_decide_eq_true heligible
  simp only [compile, look]
  rw [ending_tell_andThen, ownChanges_tell_andThen]
  simp only [hverdict]
  rw [ending_tell_andThen, ownChanges_tell_andThen, ownLogs_compileEligible routines hcalls,
    Host.logger_engine_replay, Host.logger_engine_replay]
  rw [filter_isLog_reports]
  rfl

/-!
# Sweeps
-/

def IsEngineLog : Change Key Memory -> Prop
  | .log _ _ target _ => target = Engine.target
  | _ => False

theorem target_ne_target : Interceptor.target ≠ Engine.target := by decide

/-- What an interceptor does when it is switched on, it does itself, or in the span of
its sweep. -/
theorem placed_enable (hcalls : forall call, (accounts call).IsNested) {index : Nat}
    {scope : Scope} {host : Host Key Memory} {entry : Entry Key Memory}
    (hmem : entry ∈ (enable routines accounts index scope host).2) :
    entry.scope = scope ∧ ¬ IsEngineLog entry.change ∨
      exists id, (scope.opened
        ⟨.sweeping index, (host.interceptor index).logger, id⟩).Holds entry.scope := by
  cases hactive : (host.interceptor index).activation.isActive with
  | true =>
      simp only [enable, look, hactive, if_true] at hmem
      rw [List.mem_singleton.mp hmem]
      exact .inl ⟨rfl, target_ne_target⟩
  | false =>
      rw [entries_enable_of_inactive routines hactive, entries_sweep] at hmem
      rcases List.mem_append.mp hmem with hstart | hswept
      · rcases List.mem_map.mp hstart with ⟨change, hchange, rfl⟩
        refine .inl ⟨rfl, ?_⟩
        simp only [installing, List.mem_cons, List.not_mem_nil, or_false] at hchange
        rcases hchange with rfl | rfl | rfl
        · exact id
        · exact id
        · exact target_ne_target
      · have hlogger : ((host.replay ((installing index host).map
            (⟨scope, ·⟩))).interceptor index).logger = (host.interceptor index).logger :=
          Host.logger_interceptor_setActivation host index index _
        rw [hlogger] at hswept
        rcases List.mem_append.mp hswept with hbody | hend
        · rcases List.mem_cons.mp hbody with henter | hinner
          · rw [henter]
            exact .inl ⟨rfl, id⟩
          · exact .inr ⟨_, (isNested_sweepBody routines hcalls _ _ _ _ _).holds hinner⟩
        · rw [List.mem_singleton.mp hend]
          exact .inl ⟨rfl, id⟩

end Account

/-!
# Runs
-/

namespace Host

/-- The stacks after a run are those before it, its records name the innermost spans,
and no number is given twice. -/
structure SpansKept (routines : Routines Key Memory) (depth : Nat)
    (operations : List (Operation Key)) (start : Host Key Memory) : Prop where
  run : operations.foldl (fun host operation => (operation.act routines depth host).2)
    start = start.replay (told routines depth operations start)
  balanced : forall logger,
    (start.replay (told routines depth operations start)).spans logger = start.spans logger
  attributed : start.Throughout (Entry.IsAttributed start)
    (told routines depth operations start)
  distinct : forall logger, logger < start.loggers.length ->
    (openedIn logger (told routines depth operations start)).Nodup

/-- What is done in a call is in the scope of the call, right in it unless a routine
does it. -/
structure CallIsPlaced (routines : Routines Key Memory) (depth : Nat) (call : Call Key)
    (scope : Scope) (host : Host Key Memory) : Prop where
  run : perform routines depth call host =
    ((Account.perform routines depth call scope host).1,
      host.replay (Account.perform routines depth call scope host).2)
  placed : forall entry, entry ∈ (Account.perform routines depth call scope host).2 ->
    scope.Holds entry.scope

/-- What a compiler does is in the span of its compile, and what the engine itself
reports of the compile is in the scope around it. -/
structure CompileIsPlaced (routines : Routines Key Memory) (depth index : Nat)
    (path? : Option Path) (scope : Scope) (host : Host Key Memory) : Prop where
  run : Engine.compile routines (perform routines depth) index path? host =
    ((Account.compile routines (Account.perform routines depth) index path? scope host).1,
      host.replay
        (Account.compile routines (Account.perform routines depth) index path? scope host).2)
  placed : forall entry,
    entry ∈
      (Account.compile routines (Account.perform routines depth) index path? scope host).2 ->
    entry.scope = scope ∨ exists source id, path? = some source ∧
      (scope.opened ⟨.compiling index source, (host.engine index).logger, id⟩).deeper.Holds
        entry.scope
  reported : forall source, path? = some source -> host.isEligible index path? = true ->
    ownChanges Account.isLog scope
      (Account.compile routines (Account.perform routines depth) index path? scope host).2 =
      Account.reports (host.engine index).logger
          (judge path? (host.policy (host.engine index).policy) host.suffixes).errors ++
        .log (host.engine index).logger
          (if (host.policy (host.engine index).policy).verbose then .info else .debug)
          Engine.target ("Compiling " ++ source.text) ::
        Account.outcomeRecords (host.engine index).logger source
          (Account.compile routines (Account.perform routines depth) index path? scope host).1

structure SweepIsPlaced (routines : Routines Key Memory) (depth index : Nat)
    (scope : Scope) (host : Host Key Memory) : Prop where
  run : Interceptor.enable routines (perform routines depth) index host =
    ((Account.enable routines (Account.perform routines depth) index scope host).1,
      host.replay
        (Account.enable routines (Account.perform routines depth) index scope host).2)
  placed : forall entry,
    entry ∈ (Account.enable routines (Account.perform routines depth) index scope host).2 ->
    entry.scope = scope ∧ ¬ Account.IsEngineLog entry.change ∨
      exists id, (scope.opened
        ⟨.sweeping index, (host.interceptor index).logger, id⟩).Holds entry.scope

theorem spansKept (routines : Routines Key Memory) (depth : Nat)
    (operations : List (Operation Key)) (start : Host Key Memory) :
    SpansKept routines depth operations start where
  run := foldl_act_eq_replay routines depth operations start
  balanced logger := by
    rw [← foldl_act_eq_replay]
    induction operations generalizing start with
    | nil => rfl
    | cons operation rest ih =>
        exact (ih _).trans (spans_act routines depth operation start logger)
  attributed := isAttributed_told routines depth operations start
  distinct logger hin := by
    apply nodup_openedIn _ hin
    apply throughout_told
    intro operation host
    exact (Account.performed_operation routines depth operation {} host).fits

theorem callIsPlaced (routines : Routines Key Memory) (depth : Nat) (call : Call Key)
    (scope : Scope) (host : Host Key Memory) :
    CallIsPlaced routines depth call scope host where
  run := Account.tells_perform routines depth call scope host
  placed _ hmem := (Account.isNested_perform routines depth call scope host).holds hmem

theorem compileIsPlaced (routines : Routines Key Memory) (depth index : Nat)
    (path? : Option Path) (scope : Scope) (host : Host Key Memory) :
    CompileIsPlaced routines depth index path? scope host where
  run := Account.tells_compile routines (Account.tells_perform routines depth) index path?
    scope host
  placed _ hmem :=
    Account.placed_compile routines (Account.isNested_perform routines depth) hmem
  reported source hsource heligible := by
    subst hsource
    exact Account.ownLogs_compile routines (Account.isNested_perform routines depth)
      heligible scope

theorem sweepIsPlaced (routines : Routines Key Memory) (depth index : Nat)
    (scope : Scope) (host : Host Key Memory) :
    SweepIsPlaced routines depth index scope host where
  run := Account.tells_enable routines (Account.tells_perform routines depth) index scope host
  placed _ hmem :=
    Account.placed_enable routines (Account.isNested_perform routines depth) hmem

/-- Spans are balanced and records attributed, however deep compiles are nested and
however they end. -/
theorem records_in_innermost_span (routines : Routines Key Memory) (depth : Nat) :
    (forall (operation : Operation Key) host logger,
      (operation.act routines depth host).2.spans logger = host.spans logger) ∧
    (forall operations start, SpansKept routines depth operations start) ∧
    (forall call scope host, CallIsPlaced routines depth call scope host) ∧
    (forall index path? scope host, CompileIsPlaced routines depth index path? scope host) ∧
    (forall index scope host, SweepIsPlaced routines depth index scope host) := by
  refine ⟨spans_act routines depth, ?_, ?_, ?_, ?_⟩
  · exact spansKept routines depth
  · exact callIsPlaced routines depth
  · exact compileIsPlaced routines depth
  · exact sweepIsPlaced routines depth

/-- The compiler of `outer.el` loads one file, which is refused, and gives another to
the engine, for which the compiler breaks off. -/
def nesting : Routines Nat Unit where
  compile _ source :=
    if source = Path.ofString "outer.el" then
      .call (.load (Path.ofString "inner.el")) fun _ =>
        .call (.compile 0 (some (Path.ofString "broken.el"))) fun _ =>
          .done (.ok (Path.ofString "outer.elc"))
    else if source = Path.ofString "inner.el" then .done (.error (.rejected source "refused"))
    else .panic (.text "out of memory")
  link _ := .done (.ok ())
  observe _ _ := .done .passThrough

def nestingSession : List (Operation Nat) :=
  [.call (.load (Path.ofString "outer.el")), .enable 0, .call .runPending]

def nestingStart : Host Nat Unit where
  context :=
    { logging := { loggers := [{ level := .trace, sinks := [.memory] }] }
      policies := [Policy.empty] }
  suffixes := [".el"]
  engines := [⟨0, 0, {}⟩]
  interceptors := [⟨0, 0, .inactive⟩]
  memory := ()

theorem records_in_innermost_span_nestingSession :
    SpansKept nesting 4 nestingSession nestingStart ∧
    openedIn 0 (told nesting 4 nestingSession nestingStart) = [1, 2, 3, 4] ∧
    (nestingStart.replay
        (told nesting 4 nestingSession nestingStart)).context.logging.outlets.memory.map
      (·.span) =
      [none, some 1, some 1, some 2, some 2, some 2, some 2, some 2, some 1, some 1, none,
        none, none] := by
  rcases records_in_innermost_span nesting 4 with ⟨-, hkept, -⟩
  refine ⟨hkept nestingSession nestingStart, ?_, ?_⟩
  · decide +kernel
  · decide +kernel

end Host
end CompileOnLoad
