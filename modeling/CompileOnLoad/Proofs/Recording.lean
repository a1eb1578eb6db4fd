import CompileOnLoad.Facade
import CompileOnLoad.Proofs.Attribution
import Mathlib.Data.List.Basic

/-!
# What is written, and who takes notice

What a host logs is delivered to sinks.  What sinks have written is never read again, so
hosts that agree in everything else do the same from then on: they end alike, tell the same
entries, and deliver the same records.
-/

namespace CompileOnLoad

variable {Key Memory α β : Type}

def Context.unwritten (context : Context) : Context :=
  { context with logging := { context.logging with outlets := {} } }

def Host.unwritten (host : Host Key Memory) : Host Key Memory :=
  { host with context := host.context.unwritten }

namespace Context

theorem unwritten_receive (context : Context) (delivery : Log.Delivery) :
    (context.receive delivery).unwritten =
      (context.unwritten.receive delivery).unwritten := by
  rcases delivery with ⟨sink, record⟩
  cases sink with
  | pruner handle =>
      unfold receive
      simp only
      split
      · rfl
      · rfl
  | _ => rfl

theorem unwritten_foldl_receive (deliveries : List Log.Delivery) (context : Context) :
    (deliveries.foldl receive context).unwritten =
      (deliveries.foldl receive context.unwritten).unwritten := by
  induction deliveries generalizing context with
  | nil => rfl
  | cons delivery rest ih =>
      rw [List.foldl_cons, List.foldl_cons, ih, unwritten_receive, ← ih]

theorem unwritten_log (context : Context) (logger : Nat) (level : Log.Level)
    (target message : String) :
    (context.log logger level target message).unwritten =
      (context.unwritten.log logger level target message).unwritten :=
  unwritten_foldl_receive _ context

theorem outlets_receive (context : Context) (delivery : Log.Delivery) :
    (context.receive delivery).logging.outlets =
      context.logging.outlets.receive delivery := by
  rcases delivery with ⟨sink, record⟩
  cases sink with
  | pruner handle =>
      unfold receive
      simp only
      split
      · rfl
      · rfl
  | _ => rfl

theorem outlets_log (context : Context) (logger : Nat) (level : Log.Level)
    (target message : String) :
    (context.log logger level target message).logging.outlets =
      (context.logging.deliveries logger level target message).foldl Log.Outlets.receive
        context.logging.outlets := by
  unfold log
  generalize context.logging.deliveries logger level target message = deliveries
  induction deliveries generalizing context with
  | nil => rfl
  | cons delivery rest ih => rw [List.foldl_cons, List.foldl_cons, ih, outlets_receive]

end Context

namespace Host

/-- The hosts agree in all but what was written. -/
def SameState (host host' : Host Key Memory) : Prop :=
  host.unwritten = host'.unwritten

theorem unwritten_apply (change : Change Key Memory) (host : Host Key Memory) :
    (change.apply host).unwritten = (change.apply host.unwritten).unwritten := by
  cases change with
  | log logger level target message =>
      exact congrArg (fun context => { host with context })
        (Context.unwritten_log host.context logger level target message)
  | _ => rfl

namespace SameState

variable {host host' host'' : Host Key Memory}

theorem trans (h : SameState host host') (h' : SameState host' host'') :
    SameState host host'' :=
  Eq.trans h h'

theorem eq (h : SameState host host') (f : Host Key Memory -> β)
    (hf : forall host, f host = f host.unwritten) : f host = f host' := by
  rw [hf host, hf host', show host.unwritten = host'.unwritten from h]

theorem apply (h : SameState host host') (change : Change Key Memory) :
    SameState (change.apply host) (change.apply host') := by
  unfold SameState
  rw [unwritten_apply, unwritten_apply change host', show host.unwritten =
    host'.unwritten from h]

theorem replay (h : SameState host host') (entries : List (Entry Key Memory)) :
    SameState (host.replay entries) (host'.replay entries) := by
  induction entries generalizing host host' with
  | nil => exact h
  | cons entry rest ih => exact ih (h.apply entry.change)

end SameState
end Host

/-!
# Records in order
-/

def Entry.delivered (host : Host Key Memory) (entry : Entry Key Memory) :
    List Log.Delivery :=
  match entry.change with
  | .log logger level target message =>
      host.context.logging.deliveries logger level target message
  | _ => []

def Host.delivered : Host Key Memory -> List (Entry Key Memory) -> List Log.Delivery
  | _, [] => []
  | host, entry :: rest => entry.delivered host ++ (entry.change.apply host).delivered rest

namespace Host

theorem delivered_append (host : Host Key Memory) (entries more : List (Entry Key Memory)) :
    host.delivered (entries ++ more) =
      host.delivered entries ++ (host.replay entries).delivered more := by
  induction entries generalizing host with
  | nil => rfl
  | cons entry rest ih =>
      rw [List.cons_append, delivered, delivered, ih, List.append_assoc]
      rfl

theorem SameState.delivered {host host' : Host Key Memory} (h : SameState host host')
    (entries : List (Entry Key Memory)) :
    host.delivered entries = host'.delivered entries := by
  induction entries generalizing host host' with
  | nil => rfl
  | cons entry rest ih =>
      rw [Host.delivered, Host.delivered, ih (h.apply entry.change),
        h.eq entry.delivered fun _ => rfl]

def outlets (host : Host Key Memory) : Log.Outlets :=
  host.context.logging.outlets

theorem outlets_apply (host : Host Key Memory) (entry : Entry Key Memory) :
    (entry.change.apply host).outlets =
      (entry.delivered host).foldl Log.Outlets.receive host.outlets := by
  rcases entry with ⟨scope, change⟩
  cases change with
  | log logger level target message =>
      exact Context.outlets_log host.context logger level target message
  | _ => rfl

theorem outlets_replay (host : Host Key Memory) (entries : List (Entry Key Memory)) :
    (host.replay entries).outlets =
      (host.delivered entries).foldl Log.Outlets.receive host.outlets := by
  induction entries generalizing host with
  | nil => rfl
  | cons entry rest ih =>
      rw [delivered, List.foldl_append, ← outlets_apply]
      exact ih _

end Host

/-!
# Sinks that only record

A sink may also remove the malformed patterns of a policy.  If a logger leads to no such
sink, what it logs changes nothing but what is written.
-/

namespace Log

def Sink.isRecording : Sink -> Bool
  | pruner _ => false
  | _ => true

/-- Whatever is logged with the logger is only recorded. -/
def RecordsOnly (loggers : List Logger) (index : Nat) : Prop :=
  forall now level target message delivery,
    delivery ∈ deliveries loggers now index level target message ->
      delivery.sink.isRecording = true

def Logger.route (logger : Logger) : Level × List Sink :=
  (logger.level, logger.sinks)

/-- Loggers that agree in what an observer of their deliveries sees deliver alike, for the
observer. -/
theorem map_deliveries {loggers loggers' : List Logger} {view : Logger -> α}
    {observe : Delivery -> β} (h : loggers.map view = loggers'.map view)
    (hview : forall logger logger' : Logger, view logger = view logger' ->
      logger.route = logger'.route ∧
        forall sink now level target message,
          observe ⟨sink, logger.record now level target message⟩ =
            observe ⟨sink, logger'.record now level target message⟩)
    (now : UInt64) (index : Nat) (level : Level) (target message : String) :
    (deliveries loggers now index level target message).map observe =
      (deliveries loggers' now index level target message).map observe := by
  induction index using Nat.strongRecOn with
  | ind index ih =>
      have hindex := congrArg (·[index]?) h
      simp only [List.getElem?_map] at hindex
      rw [deliveries, deliveries]
      cases hfound : loggers[index]? with
      | none =>
          rw [hfound] at hindex
          rw [Option.map_eq_none_iff.mp hindex.symm]
      | some logger =>
          rw [hfound] at hindex
          rcases Option.map_eq_some_iff.mp hindex.symm with ⟨logger', hfound', hsame⟩
          rcases hview logger' logger hsame with ⟨hroute, hrecord⟩
          rcases Prod.mk.inj hroute with ⟨hlevel, hsinks⟩
          have henabled : logger'.isEnabled level = logger.isEnabled level :=
            congrArg level.passes hlevel
          rw [hfound']
          simp only [henabled, hsinks]
          split
          · rw [List.map_flatMap, List.map_flatMap]
            apply List.flatMap_congr
            intro sink _
            cases sink with
            | logger earlier =>
                simp only
                split
                · next hearlier => exact ih earlier hearlier
                · rfl
            | _ => exact congrArg (fun delivered => [delivered]) (hrecord ..).symm
          · rfl

-- The spans of the two lists may differ, so the records of the deliveries may, too.
theorem sinks_deliveries {loggers loggers' : List Logger}
    (h : loggers.map Logger.route = loggers'.map Logger.route) (now : UInt64) (index : Nat)
    (level : Level) (target message : String) :
    (deliveries loggers now index level target message).map (·.sink) =
      (deliveries loggers' now index level target message).map (·.sink) :=
  map_deliveries h (fun _ _ hroute => ⟨hroute, fun _ _ _ _ _ => rfl⟩) now index level
    target message

theorem RecordsOnly.of_routes {loggers loggers' : List Logger} {index : Nat}
    (hrecords : RecordsOnly loggers index)
    (h : loggers.map Logger.route = loggers'.map Logger.route) :
    RecordsOnly loggers' index := by
  intro now level target message delivery hmem
  have hsink := List.mem_map_of_mem (f := (·.sink)) hmem
  rw [← sinks_deliveries h now index level target message] at hsink
  rcases List.mem_map.mp hsink with ⟨other, hother, hsame⟩
  rw [← hsame]
  exact hrecords now level target message other hother

theorem recordsOnly_of_sinks {loggers : List Logger}
    (h : forall logger, logger ∈ loggers -> forall sink, sink ∈ logger.sinks ->
      sink.isRecording = true) (index : Nat) : RecordsOnly loggers index := by
  intro now level target message
  induction index using Nat.strongRecOn with
  | ind index ih =>
      intro delivery hmem
      rw [deliveries] at hmem
      split at hmem
      · cases hmem
      · next logger hfound =>
          split at hmem
          · rcases List.mem_flatMap.mp hmem with ⟨sink, hsink, hdelivered⟩
            split at hdelivered
            · next earlier =>
                split at hdelivered
                · next hearlier => exact ih earlier hearlier delivery hdelivered
                · cases hdelivered
            · rw [List.mem_singleton.mp hdelivered]
              exact h logger (List.mem_of_getElem? hfound) sink hsink
          · cases hmem

end Log

namespace Host

def routes (host : Host Key Memory) : List (Log.Level × List Log.Sink) :=
  host.loggers.map Log.Logger.route

theorem routes_update (logging : Log.Logging) (index : Nat) {f : Log.Logger -> Log.Logger}
    (h : forall logger, (f logger).route = logger.route) :
    (logging.update index f).loggers.map Log.Logger.route =
      logging.loggers.map Log.Logger.route := by
  apply List.ext_getElem?
  intro other
  unfold Log.Logging.update
  simp only [List.getElem?_map, List.getElem?_modify]
  cases logging.loggers[other]? with
  | none => rfl
  | some logger =>
      split
      · exact congrArg some (h logger)
      · rfl

theorem routes_apply (change : Change Key Memory) (host : Host Key Memory) :
    (change.apply host).routes = host.routes := by
  cases change with
  | log logger level target message =>
      exact congrArg (List.map _) (Context.loggers_log host.context logger level _ _)
  | enter span => exact routes_update host.context.logging span.logger fun _ => rfl
  | leave span => exact routes_update host.context.logging span.logger fun _ => rfl
  | _ => rfl

theorem routes_replay (entries : List (Entry Key Memory)) (host : Host Key Memory) :
    (host.replay entries).routes = host.routes := by
  induction entries generalizing host with
  | nil => rfl
  | cons entry rest ih => exact (ih _).trans (routes_apply entry.change host)

theorem sameState_log {host : Host Key Memory} {logger : Nat}
    (hrecords : Log.RecordsOnly host.loggers logger) (level : Log.Level)
    (target message : String) :
    (host.log logger level target message).SameState host := by
  have hgeneral (deliveries : List Log.Delivery) (context : Context)
      (h : forall delivery, delivery ∈ deliveries -> delivery.sink.isRecording = true) :
      (deliveries.foldl Context.receive context).unwritten = context.unwritten := by
    induction deliveries generalizing context with
    | nil => rfl
    | cons delivery rest ih =>
        rw [List.foldl_cons, ih _ fun later hmem =>
          h later (List.mem_cons_of_mem delivery hmem)]
        have hfirst := h delivery (List.mem_cons_self ..)
        rcases delivery with ⟨sink, record⟩
        cases sink with
        | pruner handle => cases hfirst
        | _ => rfl
  exact congrArg (fun context => { host with context })
    (hgeneral _ host.context (hrecords _ level target message))

end Host

/-!
# What hosts and engines do
-/

def Change.IsOfCore : Change Key Memory -> Prop
  | log _ _ target _ => target ≠ Facade.target
  | _ => True

/-- The account takes no notice of what was written, and logs nothing for a facade. -/
structure Account.IsOfCore (account : Account Key Memory α) : Prop where
  steady : forall scope (host host' : Host Key Memory), host.SameState host' ->
    account scope host = account scope host'
  changes : forall scope host entry, entry ∈ (account scope host).2 -> entry.change.IsOfCore

namespace Account

theorem isOfCore_ended (ending : Ending α) :
    (ended ending : Account Key Memory α).IsOfCore where
  steady _ _ _ _ := rfl
  changes _ _ _ hmem := absurd hmem List.not_mem_nil

theorem isOfCore_returned (a : α) : (returned a : Account Key Memory α).IsOfCore :=
  isOfCore_ended _

theorem isOfCore_tell {changes : List (Change Key Memory)}
    (h : forall change, change ∈ changes -> change.IsOfCore) : (tell changes).IsOfCore where
  steady _ _ _ _ := rfl
  changes := by
    intro scope host entry hmem
    rcases List.mem_map.mp hmem with ⟨change, hchange, rfl⟩
    exact h change hchange

theorem isOfCore_andThen {account : Account Key Memory α}
    {next : α -> Account Key Memory β} (haccount : account.IsOfCore)
    (hnext : forall a, (next a).IsOfCore) : (account.andThen next).IsOfCore where
  steady := by
    intro scope host host' h
    unfold andThen
    rw [haccount.steady scope host host' h]
    rcases account scope host' with ⟨ending, entries⟩
    cases ending with
    | returned a =>
        simp only
        rw [(hnext a).steady scope _ _ (h.replay entries)]
    | panicked panic => rfl
    | exhausted => rfl
  changes := by
    intro scope host entry hmem
    rcases mem_andThen hmem with hfirst | ⟨a, hlater⟩
    · exact haccount.changes scope host entry hfirst
    · exact (hnext a).changes scope _ entry hlater

theorem isOfCore_look {next : Host Key Memory -> Account Key Memory α}
    (h : forall host, (next host).IsOfCore)
    (hsteady : forall host, next host = next host.unwritten) : (look next).IsOfCore where
  steady := by
    intro scope host host' hsame
    unfold look
    rw [hsame.eq next hsteady]
    exact (h host').steady scope host host' hsame
  changes scope host entry hmem := (h host).changes scope host entry hmem

theorem isOfCore_byRoutine {account : Account Key Memory α} (h : account.IsOfCore) :
    account.byRoutine.IsOfCore where
  steady scope := h.steady scope.deeper
  changes scope := h.changes scope.deeper

theorem isOfCore_inSpan {account : Account Key Memory α} (h : account.IsOfCore)
    (work : Work) (logger : Nat) : (account.inSpan work logger).IsOfCore where
  steady := by
    intro scope host host' hsame
    have hnext := hsame.eq (fun host => (host.context.logging.logger logger).nextSpan)
      fun _ => rfl
    have hentered : (host.enterSpan logger).SameState (host'.enterSpan logger) :=
      hsame.apply (.enter ⟨work, logger, 0⟩)
    unfold inSpan
    simp only [hnext]
    rw [h.steady _ _ _ hentered]
  changes := by
    intro scope host entry hmem
    rcases List.mem_append.mp hmem with hstart | hend
    · rcases List.mem_cons.mp hstart with henter | hinner
      · rw [henter]
        trivial
      · exact h.changes _ _ entry hinner
    · rw [List.mem_singleton.mp hend]
      trivial

theorem IsOfCore.after {account : Account Key Memory α} (h : account.IsOfCore)
    {changes : List (Change Key Memory)}
    (hchanges : forall change, change ∈ changes -> change.IsOfCore) :
    ((tell changes).andThen fun _ => account).IsOfCore :=
  isOfCore_andThen (isOfCore_tell hchanges) fun _ => h

variable {accounts : (call : Call Key) -> Account Key Memory call.Answer}

theorem isOfCore_script (hcalls : forall call, (accounts call).IsOfCore)
    (s : Script Key Memory α) : (script accounts s).IsOfCore := by
  induction s with
  | done a => exact isOfCore_returned a
  | panic p => exact isOfCore_ended (.panicked p)
  | consult next ih => exact isOfCore_look (fun host => ih host.memory) fun _ => rfl
  | store memory next ih =>
      apply ih.after
      simp [Change.IsOfCore]
  | call c next ih => exact isOfCore_andThen (hcalls c) ih

theorem target_engine_ne : Engine.target ≠ Facade.target := by decide

theorem target_pipeline_ne : Host.pipelineTarget ≠ Facade.target := by decide

theorem target_queue_ne : Host.queueTarget ≠ Facade.target := by decide

theorem target_interceptor_ne : Interceptor.target ≠ Facade.target := by decide

theorem isOfCore_skip (index : Nat) (path? : Option Path) (verdict : Verdict) :
    (skip index path? verdict : Account Key Memory Outcome).IsOfCore := by
  apply isOfCore_look _ fun _ => rfl
  intro host
  apply (isOfCore_returned Outcome.skipped).after
  cases path? with
  | none => simp [Change.IsOfCore]
  | some path => simp [Change.IsOfCore, target_engine_ne]

theorem isOfCore_fail (index : Nat) (source : Path) (failure : CompileFailure) :
    (fail index source failure : Account Key Memory Outcome).IsOfCore := by
  apply isOfCore_look _ fun _ => rfl
  intro host
  apply (isOfCore_returned (Outcome.failed failure)).after
  simp [Change.IsOfCore, target_engine_ne]

theorem isOfCore_succeed (index : Nat) (source artifact : Path) :
    (succeed index source artifact : Account Key Memory Outcome).IsOfCore := by
  apply isOfCore_look _ fun _ => rfl
  intro host
  apply (isOfCore_returned (Outcome.compiled artifact)).after
  simp [Change.IsOfCore, target_engine_ne]

theorem isOfCore_settle (index : Nat) (source : Path)
    (ending : Ending (Except CompileFailure Path)) :
    (settle index source ending : Account Key Memory Outcome).IsOfCore := by
  cases ending with
  | returned result =>
      cases result with
      | ok artifact => exact isOfCore_succeed index source artifact
      | error failure => exact isOfCore_fail index source failure
  | panicked panic => exact isOfCore_fail index source _
  | exhausted => exact isOfCore_ended .exhausted

variable (routines : Routines Key Memory)

theorem isOfCore_compileEligible (hcalls : forall call, (accounts call).IsOfCore)
    (index : Nat) (source : Path) :
    (compileEligible routines accounts index source).IsOfCore := by
  apply isOfCore_look _ fun _ => rfl
  intro host
  apply isOfCore_andThen _ (isOfCore_settle index source)
  exact isOfCore_inSpan (isOfCore_byRoutine (isOfCore_script hcalls _)) _ _

theorem isOfCore_compile (hcalls : forall call, (accounts call).IsOfCore) (index : Nat)
    (path? : Option Path) : (compile routines accounts index path?).IsOfCore := by
  apply isOfCore_look _ fun _ => rfl
  intro host
  apply IsOfCore.after
  · split
    · apply (isOfCore_compileEligible routines hcalls index _).after
      simp [Change.IsOfCore, target_engine_ne]
    · exact isOfCore_skip index _ _
  · intro change hmem
    rcases List.mem_map.mp hmem with ⟨error, -, rfl⟩
    exact target_engine_ne

theorem isOfCore_visit (hcalls : forall call, (accounts call).IsOfCore)
    (path? : Option Path) (observer : Observer Key) :
    (visit routines accounts path? observer).IsOfCore := by
  cases observer with
  | hook engine =>
      apply isOfCore_andThen (isOfCore_compile routines hcalls engine path?)
      intro outcome
      exact isOfCore_returned _
  | action name key => exact isOfCore_byRoutine (isOfCore_script hcalls _)

theorem isOfCore_visitAll (hcalls : forall call, (accounts call).IsOfCore)
    (path? : Option Path) (observers : List (Observer Key)) :
    (visitAll routines accounts path? observers).IsOfCore := by
  induction observers with
  | nil => exact isOfCore_returned _
  | cons observer rest ih =>
      apply IsOfCore.after _ (by simp [Change.IsOfCore])
      apply isOfCore_andThen (isOfCore_visit routines hcalls path? observer)
      intro disposition
      apply isOfCore_look _ fun _ => rfl
      intro host
      cases disposition with
      | handled =>
          apply (isOfCore_returned _).after
          simp [visitReports, Change.IsOfCore, target_pipeline_ne]
      | passThrough =>
          apply (isOfCore_andThen ih fun report => isOfCore_returned _).after
          simp [visitReports, Change.IsOfCore, target_pipeline_ne]

theorem isOfCore_announce (hcalls : forall call, (accounts call).IsOfCore)
    (path? : Option Path) : (announce routines accounts path?).IsOfCore := by
  apply isOfCore_look _ fun _ => rfl
  intro host
  apply (isOfCore_visitAll routines hcalls path? _).after
  simp [Change.IsOfCore]

theorem isOfCore_load (hcalls : forall call, (accounts call).IsOfCore) (source : Path) :
    (load routines accounts source).IsOfCore := by
  apply (isOfCore_announce routines hcalls (some source)).after
  simp [Change.IsOfCore]

theorem isOfCore_execute (hcalls : forall call, (accounts call).IsOfCore)
    (artifact : Path) : (execute routines accounts artifact).IsOfCore := by
  apply isOfCore_andThen (isOfCore_byRoutine (isOfCore_script hcalls _))
  intro linked
  apply IsOfCore.after _ (by simp [Change.IsOfCore])
  apply isOfCore_look _ fun _ => rfl
  intro host
  cases linked with
  | ok _ =>
      apply IsOfCore.after _ (by simp [Change.IsOfCore, target_queue_ne])
      exact isOfCore_andThen (isOfCore_announce routines hcalls (some artifact))
        fun _ => isOfCore_returned _
  | error failure =>
      apply (isOfCore_returned _).after
      simp [Change.IsOfCore, target_queue_ne]

theorem isOfCore_runRequests (hcalls : forall call, (accounts call).IsOfCore) (n : Nat) :
    (runRequests routines accounts n).IsOfCore := by
  induction n with
  | zero => exact isOfCore_returned _
  | succ n ih =>
      apply isOfCore_look _ fun _ => rfl
      intro host
      split
      · exact isOfCore_returned _
      · next request queue hqueue =>
          apply IsOfCore.after _ (by simp [Change.IsOfCore])
          apply isOfCore_andThen (isOfCore_execute routines hcalls request.artifact)
          intro result
          exact isOfCore_andThen ih fun report => isOfCore_returned _

theorem isOfCore_runPending (hcalls : forall call, (accounts call).IsOfCore) :
    (runPending routines accounts).IsOfCore :=
  isOfCore_look (fun _ => isOfCore_runRequests routines hcalls _) fun _ => rfl

theorem isOfCore_sweepFiles (hcalls : forall call, (accounts call).IsOfCore) (engine : Nat)
    (files : List LoadedFile) (report : SweepReport) :
    (sweepFiles routines accounts engine report files).IsOfCore := by
  induction files generalizing report with
  | nil => exact isOfCore_returned report
  | cons file rest ih =>
      apply isOfCore_andThen (isOfCore_compile routines hcalls engine _)
      intro outcome
      exact ih (report.note outcome)

theorem isOfCore_sweepBody (hcalls : forall call, (accounts call).IsOfCore)
    (logger engine : Nat) (files : List LoadedFile) :
    (sweepBody routines accounts logger engine files).IsOfCore := by
  apply IsOfCore.after _ (by simp [Change.IsOfCore, target_interceptor_ne])
  apply isOfCore_andThen (isOfCore_sweepFiles routines hcalls engine files {})
  intro report
  apply (isOfCore_returned report).after
  simp [Change.IsOfCore, target_interceptor_ne]

theorem isOfCore_sweep (hcalls : forall call, (accounts call).IsOfCore) (index : Nat) :
    (sweep routines accounts index).IsOfCore := by
  apply isOfCore_look _ fun _ => rfl
  intro host
  apply isOfCore_andThen _ isOfCore_ended
  exact isOfCore_inSpan (isOfCore_sweepBody routines hcalls _ _ _) _ _

theorem isOfCore_enable (hcalls : forall call, (accounts call).IsOfCore) (index : Nat) :
    (enable routines accounts index).IsOfCore := by
  apply isOfCore_look _ fun _ => rfl
  intro host
  simp only
  split
  · apply (isOfCore_returned none).after
    simp [Change.IsOfCore, target_interceptor_ne]
  · apply IsOfCore.after _ (by simp [Change.IsOfCore, target_interceptor_ne])
    exact isOfCore_andThen (isOfCore_sweep routines hcalls index)
      fun report => isOfCore_returned _

theorem isOfCore_disable (index : Nat) :
    (disable index : Account Key Memory Bool).IsOfCore := by
  apply isOfCore_look _ fun _ => rfl
  intro host
  simp only
  split
  · exact isOfCore_returned false
  · apply (isOfCore_returned true).after
    split
    · simp [Change.IsOfCore, target_interceptor_ne]
    · simp [Change.IsOfCore, target_interceptor_ne]

/-- One change that is not logged, and an answer that does not depend on what was written. -/
theorem isOfCore_change (change : Change Key Memory) (h : change.IsOfCore)
    (answer : Host Key Memory -> α)
    (hanswer : forall host, answer host = answer host.unwritten) :
    (look fun host => (tell [change]).andThen fun _ => returned (answer host)).IsOfCore := by
  apply isOfCore_look
  · intro host
    apply (isOfCore_returned (answer host)).after
    intro other hmem
    rw [List.mem_singleton.mp hmem]
    exact h
  · intro host
    rw [hanswer host]

theorem isOfCore_perform (depth : Nat) (call : Call Key) :
    (perform routines depth call).IsOfCore := by
  induction depth generalizing call with
  | zero =>
      cases call with
      | register priority name key =>
          exact isOfCore_change (.register priority (.action name key)) trivial _ fun _ => rfl
      | unregister id => exact isOfCore_change (.unregister id) trivial _ fun _ => rfl
      | enqueue request => exact isOfCore_tell (by simp [Change.IsOfCore])
      | editPolicy handle edit => exact isOfCore_tell (by simp [Change.IsOfCore])
      | load source => exact isOfCore_ended .exhausted
      | announce path? => exact isOfCore_ended .exhausted
      | runPending => exact isOfCore_ended .exhausted
      | compile engine path? => exact isOfCore_ended .exhausted
  | succ depth ih =>
      cases call with
      | register priority name key =>
          exact isOfCore_change (.register priority (.action name key)) trivial _ fun _ => rfl
      | unregister id => exact isOfCore_change (.unregister id) trivial _ fun _ => rfl
      | enqueue request => exact isOfCore_tell (by simp [Change.IsOfCore])
      | editPolicy handle edit => exact isOfCore_tell (by simp [Change.IsOfCore])
      | load source => exact isOfCore_load routines ih source
      | announce path? => exact isOfCore_announce routines ih path?
      | runPending => exact isOfCore_runPending routines ih
      | compile engine path? => exact isOfCore_compile routines ih engine path?

end Account
end CompileOnLoad
