import CompileOnLoad.Proofs.BookedAccounts
import CompileOnLoad.Proofs.SinkPaths
import Mathlib.Data.List.Induction

/-!
# Counters, reports, requests and records

The counters of an engine, the reports of sweeps, the requests for artifacts and the records
of the engine are kept at different places.  They tell the same of every run: how often the
engine was called, what came of it, and what the compiler was given.
-/

namespace CompileOnLoad

variable {Key Memory α : Type}

/-!
# Counting outcomes
-/

namespace Tally

def tried (tally : Tally) : Nat := tally.compiled + tally.failed

def add (tally more : Tally) : Tally :=
  ⟨tally.skipped + more.skipped, tally.compiled + more.compiled, tally.failed + more.failed⟩

def ofOutcomes (outcomes : List Outcome) : Tally := outcomes.foldl count {}

theorem add_count (tally more : Tally) (outcome : Outcome) :
    (tally.add more).count outcome = tally.add (more.count outcome) := by
  cases outcome with
  | skipped => rfl
  | compiled artifact => rfl
  | failed failure => rfl

theorem total_add (tally more : Tally) :
    (tally.add more).total = tally.total + more.total := by
  simp only [total, add]
  omega

theorem tried_add (tally more : Tally) : (tally.add more).tried = tally.tried + more.tried :=
  Nat.add_add_add_comm ..

theorem foldl_count (outcomes : List Outcome) (tally : Tally) :
    outcomes.foldl count tally = tally.add (ofOutcomes outcomes) := by
  induction outcomes using List.reverseRecOn with
  | nil => rfl
  | append_singleton earlier last ih =>
      unfold ofOutcomes at ih ⊢
      rw [List.foldl_append, ih, List.foldl_append]
      exact add_count tally _ last

theorem ofOutcomes_snoc (outcomes : List Outcome) (outcome : Outcome) :
    ofOutcomes (outcomes ++ [outcome]) = (ofOutcomes outcomes).count outcome :=
  List.foldl_append

structure Sums (outcomes : List Outcome) (tally : Tally) : Prop where
  total : tally.total = outcomes.length
  compiled : tally.compiled = (outcomes.flatMap Outcome.requests).length
  tried : tally.tried = outcomes.countP Outcome.isTried
  failed : tally.failed = outcomes.countP Outcome.isFailed

theorem sums_ofOutcomes (outcomes : List Outcome) : Sums outcomes (ofOutcomes outcomes) := by
  induction outcomes using List.reverseRecOn with
  | nil => exact ⟨rfl, rfl, rfl, rfl⟩
  | append_singleton earlier last ih =>
      rw [ofOutcomes_snoc]
      constructor
      · rw [List.length_append, ← ih.total]
        cases last with
        | skipped => simp only [count, total, List.length_singleton]; omega
        | compiled artifact => simp only [count, total, List.length_singleton]; omega
        | failed failure => rfl
      · rw [compiled_count, List.flatMap_append, List.length_append, ih.compiled,
          List.flatMap_singleton]
      · rw [List.countP_append, ← ih.tried]
        cases last with
        | skipped => rfl
        | compiled artifact => exact Nat.add_right_comm _ 1 _
        | failed failure => rfl
      · rw [List.countP_append, ← ih.failed]
        cases last with
        | skipped => rfl
        | compiled artifact => rfl
        | failed failure => rfl

end Tally

/-!
# Records of the engine in memory
-/

namespace Log

/-- The logger shows everything and keeps each record in memory, once. -/
def KeepsAll (loggers : List Logger) (index : Nat) : Prop :=
  exists logger, loggers[index]? = some logger ∧ logger.level = .trace ∧
    logger.sinks.count .memory = 1 ∧ forall earlier, .logger earlier ∉ logger.sinks

theorem KeepsAll.of_routes {loggers loggers' : List Logger} {index : Nat}
    (h : KeepsAll loggers index)
    (hroutes : loggers.map Logger.route = loggers'.map Logger.route) :
    KeepsAll loggers' index := by
  rcases h with ⟨logger, hfound, hlevel, hmemory, hchain⟩
  have hindex := congrArg (·[index]?) hroutes
  simp only [List.getElem?_map, hfound] at hindex
  rcases Option.map_eq_some_iff.mp hindex.symm with ⟨logger', hfound', hsame⟩
  rcases Prod.mk.inj hsame with ⟨hlevels, hsinks⟩
  refine ⟨logger', hfound', hlevels.trans hlevel, ?_, ?_⟩
  · rw [hsinks]
    exact hmemory
  · rw [hsinks]
    exact hchain

def keptOf (received : List Delivery) : List Record :=
  (received.filter (·.sink = .memory)).map (·.record)

theorem memory_foldl_receive (received : List Delivery) (outlets : Outlets) :
    (received.foldl Outlets.receive outlets).memory = outlets.memory ++ keptOf received := by
  induction received generalizing outlets with
  | nil => exact (List.append_nil _).symm
  | cons delivery rest ih =>
      rw [List.foldl_cons, ih]
      rcases delivery with ⟨sink, record⟩
      cases sink with
      | memory => exact List.append_assoc _ [record] _
      | events =>
          have hkept : (outlets.publish (Event.ofRecord record)).memory = outlets.memory := by
            unfold Outlets.publish
            split
            · rfl
            · rfl
            · split
              · rfl
              · rfl
          exact congrArg (· ++ _) hkept
      | _ => rfl

theorem keptOf_deliveries {loggers : List Logger} {index : Nat} (h : KeepsAll loggers index)
    (now : UInt64) (level : Level) (target message : String) :
    exists record, keptOf (deliveries loggers now index level target message) = [record] ∧
      record.target = target ∧ record.message = message := by
  rcases h with ⟨logger, hfound, hlevel, hmemory, hchain⟩
  have henabled : logger.isEnabled level = true := by
    unfold Logger.isEnabled
    rw [hlevel]
    exact decide_eq_true (Nat.zero_le _)
  refine ⟨logger.record now level target message, ?_, rfl, rfl⟩
  have hdelivered : deliveries loggers now index level target message =
      logger.sinks.map (⟨·, logger.record now level target message⟩) := by
    rw [deliveries_of_direct hfound hchain, if_pos henabled]
  have hsinks : logger.sinks.filter (· = .memory) = [.memory] := by
    rw [List.filter_eq Sink.memory, hmemory]
    rfl
  unfold keptOf
  rw [hdelivered, List.filter_map, List.map_map]
  exact congrArg (List.map _) hsinks

theorem keptOf_append (received more : List Delivery) :
    keptOf (received ++ more) = keptOf received ++ keptOf more := by
  unfold keptOf
  rw [List.filter_append, List.map_append]

end Log

namespace Engine

def noticeOf? (record : Log.Record) : Option String :=
  if record.target = target then some record.message else none

def isProgressRecord (record : Log.Record) : Bool :=
  record.target = target && isProgress record.message

def isFailureRecord (record : Log.Record) : Bool :=
  record.target = target && isFailure record.message

theorem countP_notices (p : String -> Bool) (records : List Log.Record) :
    (records.filterMap noticeOf?).countP p =
      records.countP fun record => record.target = target && p record.message := by
  rw [List.countP_filterMap]
  congr 1
  funext record
  unfold noticeOf?
  by_cases htarget : record.target = target
  · simp [htarget]
  · simp [htarget]

end Engine

namespace Host

/-- The records of the engine that are kept are its messages, if its logger keeps all. -/
theorem notices_kept {engine logger : Nat} {host : Host Key Memory}
    {entries : List (Entry Key Memory)} (hkeeps : Log.KeepsAll host.loggers logger)
    (hnotices : forall notice, notice ∈ (books engine entries).notices -> notice.1 = logger) :
    (Log.keptOf (host.delivered entries)).filterMap Engine.noticeOf? =
      (books engine entries).notices.map (·.2) := by
  induction entries generalizing host with
  | nil => rfl
  | cons entry rest ih =>
      rw [books_cons] at hnotices ⊢
      have hrest := ih (hkeeps.of_routes (routes_apply entry.change host).symm)
        fun notice hmem => hnotices notice (List.mem_append.mpr (.inr hmem))
      have hfirst : (Log.keptOf (entry.delivered host)).filterMap Engine.noticeOf? =
          (books engine [entry]).notices.map (·.2) := by
        rcases entry with ⟨scope, change⟩
        cases change with
        | log index level target message =>
            rw [books_log] at hnotices ⊢
            by_cases htarget : target = Engine.target
            · rw [if_pos htarget] at hnotices ⊢
              have hindex : index = logger :=
                hnotices (index, message) (List.mem_append.mpr (.inl List.mem_cons_self))
              rcases Log.keptOf_deliveries (hindex ▸ hkeeps) host.context.logging.now
                level target message with ⟨record, hkept, hrecord, hmessage⟩
              have hdelivered : Log.keptOf
                  ((⟨scope, .log index level target message⟩ : Entry Key Memory).delivered
                    host) = [record] := hkept
              rw [hdelivered]
              simp [Engine.noticeOf?, hrecord, hmessage, htarget]
            · rw [if_neg htarget]
              apply List.filterMap_eq_nil_iff.mpr
              intro record hmem
              rcases List.mem_map.mp hmem with ⟨delivery, hdelivery, hsame⟩
              rcases Log.record_of_mem_deliveries (List.mem_filter.mp hdelivery).1
                with ⟨last, maker, -, -, hmade⟩
              rw [← hsame, hmade]
              exact if_neg htarget
        | _ => rfl
      rw [Host.delivered, Log.keptOf_append, List.filterMap_append, hfirst, hrest]
      exact List.map_append.symm

/-- Requests that are not urgent leave the queue in the order in which they came. -/
theorem queue_replay_of_deferred {host : Host Key Memory} {entries : List (Entry Key Memory)}
    (hfits : host.Throughout Entry.Fits entries)
    (hdeferred : forall request, request ∈ addedIn entries -> request.urgency = .deferred) :
    host.queue ++ addedIn entries = takenIn entries ++ (host.replay entries).queue := by
  induction entries generalizing host with
  | nil => exact List.append_nil _
  | cons entry rest ih =>
      rcases entry with ⟨scope, change⟩
      cases change with
      | enqueue request =>
          have hurgency := hdeferred request List.mem_cons_self
          have hadded : (host.enqueue request).queue = host.queue ++ [request] := by
            unfold enqueue Queue.add
            rw [hurgency]
          have hrest := ih hfits.2 fun other hmem =>
            hdeferred other (List.mem_cons_of_mem _ hmem)
          refine Eq.trans ?_ hrest
          show host.queue ++ request :: addedIn rest = (host.enqueue request).queue ++ _
          rw [hadded, List.append_assoc]
          rfl
      | take request =>
          have hhead : host.queue.head? = some request := hfits.1
          have hrest := ih hfits.2 hdeferred
          cases hqueue : host.queue with
          | nil =>
              rw [hqueue] at hhead
              cases hhead
          | cons first others =>
              rw [hqueue] at hhead
              cases hhead
              refine congrArg (request :: ·) (Eq.trans ?_ hrest)
              show others ++ _ = host.queue.tail ++ _
              rw [hqueue]
              rfl
      | _ => exact ih hfits.2 hdeferred

end Host

/-!
# Sweeps
-/

section

variable {routines : Routines Key Memory} {engine : Nat}

namespace Engine

/-- What becomes of files that are given to an engine one after the other. -/
def outcomes (routines : Routines Key Memory) (engine : Nat) :
    List LoadedFile -> Host Key Memory -> List Outcome
  | [], _ => []
  | file :: rest, host =>
      let given := result routines engine (some file.source) host
      given.1 :: outcomes routines engine rest (host.settle engine given)

theorem outcomes_eq_of_sameBare {host host' : Host Key Memory} (h : Host.SameBare host host')
    (files : List LoadedFile) :
    outcomes routines engine files host = outcomes routines engine files host' := by
  induction files generalizing host host' with
  | nil => rfl
  | cons file rest ih =>
      unfold outcomes
      simp only
      rw [result_eq_of_sameBare h, ih (h.settle engine _)]

/-- Files fare the same whatever observers and interceptors there are. -/
theorem outcomes_eq_of_observers (files : List LoadedFile) (host : Host Key Memory)
    (pipeline : Pipeline Key) (interceptors : List Interceptor) :
    outcomes routines engine files { host with pipeline, interceptors } =
      outcomes routines engine files host := by
  induction files generalizing host with
  | nil => rfl
  | cons file rest ih => exact congrArg (_ :: ·) (ih (host.settle engine _))

theorem length_outcomes (files : List LoadedFile) (host : Host Key Memory) :
    (outcomes routines engine files host).length = files.length := by
  induction files generalizing host with
  | nil => rfl
  | cons file rest ih => exact congrArg (· + 1) (ih _)

end Engine

theorem SweepReport.foldl_note (outcomes : List Outcome) :
    outcomes.foldl SweepReport.note {} = ⟨outcomes.length, Tally.ofOutcomes outcomes⟩ := by
  induction outcomes using List.reverseRecOn with
  | nil => rfl
  | append_singleton earlier last ih =>
      rw [List.foldl_append, ih, List.length_append, Tally.ofOutcomes_snoc]
      rfl

/-- The files that an engine was given have left these outcomes in its tally and in the
queue. -/
structure Host.Took (engine : Nat) (outcomes : List Outcome)
    (before after : Host Key Memory) : Prop where
  queue : after.queue = before.queue ++ outcomes.flatMap Outcome.requests
  tally : engine < before.engines.length ->
    (after.engine engine).tally = outcomes.foldl Tally.count (before.engine engine).tally

theorem Host.tally_settle {host : Host Key Memory} (hengine : engine < host.engines.length)
    (given : Outcome × Memory) :
    ((host.settle engine given).engine engine).tally =
      (host.engine engine).tally.count given.1 := by
  have hcounted := tally_engine_apply hengine (.count engine given.1)
  have houtcome : (Change.count engine given.1 : Change Key Memory).outcome? engine =
      some given.1 := if_pos rfl
  rw [houtcome] at hcounted
  exact hcounted

theorem Host.Took.of_sameBare {outcomes : List Outcome}
    {before before' after after' : Host Key Memory} (h : Took engine outcomes before after)
    (hbefore : SameBare before before') (hafter : SameBare after after') :
    Took engine outcomes before' after' where
  queue := by
    rw [← hbefore.eq Host.queue fun _ => rfl, ← hafter.eq Host.queue fun _ => rfl]
    exact h.queue
  tally := by
    rw [← hbefore.eq Host.engines fun _ => rfl, ← hbefore.eq (·.engine engine) fun _ => rfl,
      ← hafter.eq (·.engine engine) fun _ => rfl]
    exact h.tally

namespace Interceptor

theorem sweepFiles_took (hquiet : routines.Quiet) (perform : Performer Key Memory)
    (engine : Nat) (files : List LoadedFile) (report : SweepReport) (host : Host Key Memory) :
    (sweepFiles routines perform engine report files host).1 =
        .returned
          ((Engine.outcomes routines engine files host).foldl SweepReport.note report) ∧
      Host.Took engine (Engine.outcomes routines engine files host) host
        (sweepFiles routines perform engine report files host).2 := by
  induction files generalizing report host with
  | nil => exact ⟨rfl, (List.append_nil _).symm, fun _ => rfl⟩
  | cons file rest ih =>
      rcases Engine.compile_quiet perform (hquiet.compile engine) (some file.source) host
        with ⟨hending, hsame⟩
      rcases ih (report.note (Engine.result routines engine (some file.source) host).1)
        (Engine.compile routines perform engine (some file.source) host).2 with ⟨hrest, htook⟩
      rw [Engine.outcomes_eq_of_sameBare hsame] at hrest htook
      have hsettled := htook.of_sameBare hsame rfl
      unfold sweepFiles
      rw [Act.andThen_of_returned (Prod.ext hending rfl)]
      refine ⟨hrest, ?_, ?_⟩
      · rw [hsettled.queue]
        exact List.append_assoc ..
      · intro hengine
        rw [hsettled.tally ((List.length_modify ..).symm ▸ hengine),
          Host.tally_settle hengine]
        rfl

theorem sweep_took (hquiet : routines.Quiet) (perform : Performer Key Memory) {index : Nat}
    {host : Host Key Memory} (hindex : (host.interceptor index).engine = engine) :
    (sweep routines perform index host).1 =
        .returned
          ((Engine.outcomes routines engine host.history host).foldl SweepReport.note {}) ∧
      Host.Took engine (Engine.outcomes routines engine host.history host) host
        (sweep routines perform index host).2 := by
  have hentered : Host.SameBare ((host.enterSpan (host.interceptor index).logger).log
      (host.interceptor index).logger .debug target
      ("sweeping " ++ toString host.history.length ++ " previously loaded files")) host :=
    Host.sameBare_log _ _ _ _ _
  rw [← hindex]
  rcases sweepFiles_took hquiet perform (host.interceptor index).engine host.history {} _
    with ⟨hending, htook⟩
  rw [Engine.outcomes_eq_of_sameBare hentered] at hending htook
  rcases sweep_of_returned (Prod.ext hending rfl) with ⟨hreport, hsame⟩
  exact ⟨hreport, htook.of_sameBare hentered hsame.symm⟩

/-- An inactive interceptor that is switched on reports what became of the files loaded
before. -/
theorem enable_took (hquiet : routines.Quiet) (perform : Performer Key Memory) {index : Nat}
    {host : Host Key Memory} (hindex : (host.interceptor index).engine = engine)
    (hinactive : (host.interceptor index).activation = .inactive) :
    (enable routines perform index host).1 =
        .returned (some
          ((Engine.outcomes routines engine host.history host).foldl SweepReport.note {})) ∧
      Host.Took engine (Engine.outcomes routines engine host.history host) host
        (enable routines perform index host).2 := by
  have hlogged := Host.sameBare_log (host.install index) (host.interceptor index).logger .info
    target "interception enabled"
  have hinstalled : ((host.install index).interceptor index).engine = engine :=
    (Host.engine_interceptor_setActivation _ index index _).trans hindex
  rw [enable_of_inactive hinactive, Act.andThen_map]
  revert hlogged
  generalize (host.install index).log _ _ _ _ = start
  intro hlogged
  have hhistory : start.history = host.history := hlogged.eq Host.history fun _ => rfl
  have hinterceptor : (start.interceptor index).engine = engine :=
    (hlogged.eq (fun host => (host.interceptor index).engine) fun _ => rfl).trans hinstalled
  have hsame : Engine.outcomes routines engine host.history start =
      Engine.outcomes routines engine host.history host :=
    (Engine.outcomes_eq_of_sameBare hlogged _).trans
      (Engine.outcomes_eq_of_observers host.history host _ _)
  rcases sweep_took hquiet perform hinterceptor with ⟨hending, htook⟩
  rw [hhistory, hsame] at hending htook
  have hinstall := htook.of_sameBare hlogged rfl
  refine ⟨?_, hinstall.queue, hinstall.tally⟩
  rw [hending]
  rfl

end Interceptor

end

/-!
# Runs
-/

namespace Tally

structure Within (tally later : Tally) : Prop where
  skipped : tally.skipped ≤ later.skipped
  compiled : tally.compiled ≤ later.compiled
  failed : tally.failed ≤ later.failed

theorem within_add (tally more : Tally) : Within tally (tally.add more) where
  skipped := Nat.le_add_right ..
  compiled := Nat.le_add_right ..
  failed := Nat.le_add_right ..

end Tally

theorem Outcome.deferred_of_mem_requests {outcomes : List Outcome} {request : Request}
    (h : request ∈ outcomes.flatMap Outcome.requests) : request.urgency = .deferred := by
  rcases List.mem_flatMap.mp h with ⟨outcome, -, hmem⟩
  cases outcome with
  | skipped => cases hmem
  | compiled artifact => rw [List.mem_singleton.mp hmem]
  | failed failure => cases hmem

/-- The report of a sweep over the files: there is one outcome for each file, the counters of
the engine have grown by those of the report, and the requests of the files that were
compiled have come to the end of the queue, in the order of the files. -/
structure SweepReport.Covers (routines : Routines Key Memory) (engine : Nat)
    (files : List LoadedFile) (report : SweepReport) (before after : Host Key Memory) :
    Prop where
  visited : report.visited = files.length
  total : report.tally.total = report.visited
  outcomes : (Engine.outcomes routines engine files before).length = files.length
  skipped : (after.engine engine).tally.skipped =
    (before.engine engine).tally.skipped + report.tally.skipped
  compiled : (after.engine engine).tally.compiled =
    (before.engine engine).tally.compiled + report.tally.compiled
  failed : (after.engine engine).tally.failed =
    (before.engine engine).tally.failed + report.tally.failed
  queue : after.queue = before.queue ++
    (Engine.outcomes routines engine files before).flatMap Outcome.requests
  requests : ((Engine.outcomes routines engine files before).flatMap
    Outcome.requests).length = report.tally.compiled
  deferred : forall request,
    request ∈ (Engine.outcomes routines engine files before).flatMap Outcome.requests ->
      request.urgency = .deferred

namespace Host

def left (routines : Routines Key Memory) (depth : Nat) (operations : List (Operation Key))
    (host : Host Key Memory) : Host Key Memory :=
  operations.foldl (fun host operation => (operation.act routines depth host).2) host

/-- How often a run calls an engine: through hooks, in sweeps, and directly. -/
def engineCalls (routines : Routines Key Memory) (depth engine : Nat)
    (operations : List (Operation Key)) (host : Host Key Memory) : Nat :=
  (books engine (host.told routines depth operations)).visits +
    host.given routines depth operations

/-- What was counted in a run agrees: the counters of the engine with the calls of it, with
the requests that were added to the queue, with the calls of the compiler that its watcher
has seen, and with the records that were kept if the logger keeps all.  What was taken from
the queue and what is left in it are what was in it and what was added. -/
structure CountsAgree (engine calls : Nat) (loads : List LoadedFile)
    (added taken : List Request) (before after : Host Key (Watched Key Memory)) : Prop where
  calls : (after.engine engine).tally.total = (before.engine engine).tally.total + calls
  requests : (after.engine engine).tally.compiled =
    (before.engine engine).tally.compiled + added.length
  deferred : forall request, request ∈ added -> request.urgency = .deferred
  queue : before.queue ++ added = taken ++ after.queue
  compiler : exists sightings, after.memory.seen = before.memory.seen ++ sightings ∧
    (after.engine engine).tally.tried =
      (before.engine engine).tally.tried + (compiledIn sightings).length
  history : after.history = before.history ++ loads
  records : Log.KeepsAll before.loggers (before.engine engine).logger ->
    exists kept, after.outlets.memory = before.outlets.memory ++ kept ∧
      (after.engine engine).tally.tried =
        (before.engine engine).tally.tried + kept.countP Engine.isProgressRecord ∧
      (after.engine engine).tally.failed =
        (before.engine engine).tally.failed + kept.countP Engine.isFailureRecord

/-- The counts agree at each point of a run, no counter ever decreases, and each sweep
reports on all files that were loaded before. -/
structure CountsAgreeThroughout (routines : Routines Key Memory) (depth engine : Nat)
    (operations : List (Operation Key)) (host : Host Key (Watched Key Memory)) : Prop where
  atEachPoint : forall earlier, earlier <+: operations ->
    CountsAgree engine (host.engineCalls routines.watched depth engine earlier)
      (earlier.flatMap Operation.loads) (addedIn (host.told routines.watched depth earlier))
      (takenIn (host.told routines.watched depth earlier)) host
      (host.left routines.watched depth earlier)
  growing : forall earlier between,
    earlier ++ between <+: host.told routines.watched depth operations ->
      ((host.replay earlier).engine engine).tally.Within
        ((host.replay (earlier ++ between)).engine engine).tally
  sweeps : forall earlier index later, operations = earlier ++ .enable index :: later ->
    let before := host.left routines.watched depth earlier
    let enabled := (Operation.enable index).act routines.watched depth before
    (before.interceptor index).activation = .inactive ->
      exists report, enabled.1 = .returned (some report) ∧
        report.Covers routines.watched engine
          (host.history ++ earlier.flatMap Operation.loads)
          before enabled.2

variable {routines : Routines Key Memory} {engine : Nat}

theorem left_eq_replay (routines : Routines Key Memory) (depth : Nat)
    (operations : List (Operation Key)) (host : Host Key Memory) :
    host.left routines depth operations = host.replay (host.told routines depth operations) :=
  foldl_act_eq_replay routines depth operations host

theorem tally_replay_eq_add {host : Host Key Memory} (hengine : engine < host.engines.length)
    (entries : List (Entry Key Memory)) :
    ((host.replay entries).engine engine).tally =
      (host.engine engine).tally.add (Tally.ofOutcomes (books engine entries).outcomes) := by
  rw [tally_engine_replay hengine, Tally.foldl_count]

theorem countsAgree_of_isBooked {given : Nat} {loads : List LoadedFile}
    {host : Host Key (Watched Key Memory)} {entries : List (Entry Key (Watched Key Memory))}
    (hengine : engine < host.engines.length) (hfits : host.Throughout Entry.Fits entries)
    (h : IsBooked engine given loads host entries) :
    CountsAgree engine ((books engine entries).visits + given) loads (addedIn entries)
      (takenIn entries) host (host.replay entries) := by
  have hsums := Tally.sums_ofOutcomes (books engine entries).outcomes
  have hrequests : addedIn entries =
    (books engine entries).outcomes.flatMap Outcome.requests := h.balance.requests
  have hdeferred (request : Request) (hmem : request ∈ addedIn entries) :
      request.urgency = .deferred :=
    Outcome.deferred_of_mem_requests (hrequests ▸ hmem)
  refine
    { calls := ?_
      requests := ?_
      deferred := hdeferred
      queue := queue_replay_of_deferred hfits hdeferred
      compiler := ?_
      history := ?_
      records := ?_ }
  · rw [tally_replay_eq_add hengine, Tally.total_add, hsums.total, h.balance.calls]
  · rw [tally_replay_eq_add hengine, hrequests, ← hsums.compiled]
    rfl
  · rcases h.seen with ⟨sightings, hseen, hcount⟩
    refine ⟨sightings, hseen, ?_⟩
    rw [tally_replay_eq_add hengine, Tally.tried_add, hsums.tried, hcount]
  · rw [history_replay engine, h.loads]
  · intro hkeeps
    have hnotices := notices_kept hkeeps h.notices
    refine ⟨Log.keptOf (host.delivered entries), ?_, ?_, ?_⟩
    · rw [outlets_replay, Log.memory_foldl_receive]
    · unfold Engine.isProgressRecord
      rw [← Engine.countP_notices, hnotices, List.countP_map, tally_replay_eq_add hengine,
        Tally.tried_add, hsums.tried, ← h.balance.progress]
      rfl
    · unfold Engine.isFailureRecord
      rw [← Engine.countP_notices, hnotices, List.countP_map, tally_replay_eq_add hengine]
      have hfailures := hsums.failed.trans h.balance.failures.symm
      exact congrArg (_ + ·) hfailures

theorem covers_enable (hquiet : routines.Quiet) (perform : Performer Key Memory) {index : Nat}
    {host : Host Key Memory} (hserves : host.Serves engine)
    (hindex : (host.interceptor index).engine = engine)
    (hinactive : (host.interceptor index).activation = .inactive) :
    exists report,
      (Interceptor.enable routines perform index host).1 = .returned (some report) ∧
        report.Covers routines engine host.history host
          (Interceptor.enable routines perform index host).2 := by
  rcases Interceptor.enable_took hquiet perform hindex hinactive with ⟨hending, htook⟩
  have hsums := Tally.sums_ofOutcomes (Engine.outcomes routines engine host.history host)
  have htally := (htook.tally hserves.present).trans (Tally.foldl_count _ _)
  refine ⟨_, hending, ?_⟩
  rw [SweepReport.foldl_note]
  exact
    { visited := Engine.length_outcomes _ _
      total := hsums.total
      outcomes := Engine.length_outcomes _ _
      skipped := congrArg Tally.skipped htally
      compiled := congrArg Tally.compiled htally
      failed := congrArg Tally.failed htally
      queue := htook.queue
      requests := hsums.compiled.symm
      deferred := fun request hmem => Outcome.deferred_of_mem_requests hmem }

/-- The counters of an engine, the reports of its sweeps, the requests, the calls of the
compiler and the records agree in every run with quiet routines. -/
theorem countsAgreeThroughout_run (hquiet : routines.Quiet) (depth : Nat)
    {operations : List (Operation Key)} {host : Host Key (Watched Key Memory)}
    (hserves : host.Serves engine)
    (hfor : forall operation, operation ∈ operations -> operation.IsFor engine host) :
    CountsAgreeThroughout routines depth engine operations host where
  atEachPoint earlier hinitial := by
    have hbooked := isBooked_told hquiet depth hserves
      fun operation hmem => hfor operation (hinitial.subset hmem)
    rw [left_eq_replay]
    apply countsAgree_of_isBooked hserves.present _ hbooked
    apply throughout_told
    exact fun operation host =>
      (Account.performed_operation routines.watched depth operation {} host).fits
  growing earlier between _ := by
    have hlength := (length_engines_replay earlier host).symm ▸ hserves.present
    rw [replay_append, tally_replay_eq_add hlength]
    exact Tally.within_add _ _
  sweeps := by
    intro earlier index later hsplit
    have hbooked : IsBooked engine (host.given routines.watched depth earlier)
        (earlier.flatMap Operation.loads) host
          (host.told routines.watched depth earlier) := by
      apply isBooked_told hquiet depth hserves
      intro operation hmem
      exact hfor operation (hsplit ▸ List.mem_append_left _ hmem)
    have henable : (Operation.enable index).IsFor engine host := by
      apply hfor
      rw [hsplit]
      exact List.mem_append_right _ List.mem_cons_self
    rw [left_eq_replay, ← hbooked.loads, ← history_replay engine]
    exact covers_enable hquiet.watched _ (hbooked.serves hserves) (henable.replay _)

def refusing : Routines Nat Unit where
  compile _ source :=
    if source = Path.ofString "b.el" then .done (.error (.rejected source "unbalanced"))
    else .done (.ok (source.withExtension "eln"))
  link _ := .done (.ok ())
  observe _ _ := .done .passThrough

theorem quiet_refusing : refusing.Quiet where
  compile _ source := by
    unfold refusing
    simp only
    split
    · trivial
    · trivial
  link _ := trivial
  observe _ _ := trivial

def observed : Host Nat (Watched Nat Unit) where
  context := {
    logging := { loggers := [{ level := .trace, sinks := [.standardError, .memory] }] }
    policies := [Policy.empty] }
  suffixes := [".el"]
  engines := [⟨0, 0, {}⟩]
  interceptors := [⟨0, 0, .inactive⟩]
  memory := ⟨(), []⟩

/-- Files come to the engine by two sweeps, by its hook, and directly. -/
def sweepingTwice : List (Operation Nat) :=
  [.call (.load (Path.ofString "a.el")), .call (.load (Path.ofString "b.el")),
    .call (.load (Path.ofString "c.txt")), .enable 0, .handle 0 none,
    .call (.compile 0 (some (Path.ofString "d.el"))), .call .runPending,
    .call (.load (Path.ofString "b.el")), .disable 0, .enable 0]

theorem countsAgreeThroughout_run_sweepingTwice :
    refusing.Quiet ∧ observed.Serves 0 ∧
    (forall operation, operation ∈ sweepingTwice -> operation.IsFor 0 observed) ∧
    Log.KeepsAll observed.loggers (observed.engine 0).logger ∧
    CountsAgreeThroughout refusing 0 0 sweepingTwice observed ∧
    observed.engineCalls refusing.watched 0 0 sweepingTwice = 12 ∧
    ((observed.left refusing.watched 0 sweepingTwice).engine 0).tally = ⟨5, 3, 4⟩ ∧
    (addedIn (observed.told refusing.watched 0 sweepingTwice)).length = 3 ∧
    (compiledIn (observed.left refusing.watched 0 sweepingTwice).memory.seen).length = 7 ∧
    (observed.left refusing.watched 0 sweepingTwice).outlets.memory.countP
      Engine.isProgressRecord = 7 ∧
    (observed.left refusing.watched 0 sweepingTwice).outlets.memory.countP
      Engine.isFailureRecord = 4 := by
  have hserves : observed.Serves 0 := ⟨Nat.zero_lt_one, nofun⟩
  have hfor : forall operation, operation ∈ sweepingTwice -> operation.IsFor 0 observed := by
    simp [sweepingTwice, Operation.IsFor, observed, Host.interceptor]
  refine ⟨quiet_refusing, hserves, hfor, ?_, ?_, ?_, ?_, ?_, ?_, ?_, ?_⟩
  · exact ⟨_, rfl, rfl, rfl, by simp⟩
  · exact countsAgreeThroughout_run quiet_refusing 0 hserves hfor
  · decide +kernel
  · decide +kernel
  · decide +kernel
  · decide +kernel
  · decide +kernel
  · decide +kernel

end Host

end CompileOnLoad
