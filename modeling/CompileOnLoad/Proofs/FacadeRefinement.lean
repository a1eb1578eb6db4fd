import CompileOnLoad.Proofs.Orders
import CompileOnLoad.Proofs.Switching

/-!
# The facade and the interceptor behind it

A facade does what its interceptor does, and logs more: before it is switched on a warning
for each malformed pattern of its policy, and afterwards what the sweep has come to.  These
records change nothing but what is written, so a run with a facade is a run with its
interceptor, to which the records of the facade are added.
-/

namespace CompileOnLoad

variable {Key Memory : Type}

def Settings.facadeTurns (routines : Routines Key Memory) (depth : Nat) (settings : Settings)
    (orders : List (Order Key)) (base : Host Key Memory) : List (Turn Key Memory) :=
  let (facade, host) := Facade.ofSettings settings base
  (Controller.facade facade).turns routines depth orders host

def Settings.coreTurns (routines : Routines Key Memory) (depth : Nat) (settings : Settings)
    (orders : List (Order Key)) (base : Host Key Memory) : List (Turn Key Memory) :=
  let (engine, host) := base.addEngine settings.policy settings.logger
  let (interceptor, host) := host.addInterceptor engine settings.logger
  (Controller.direct interceptor).turns routines depth orders host

namespace Turn

def report? : Turn Key Memory -> Option SweepReport
  | ⟨.enable, _, .returned report?, _, _⟩ => report?
  | _ => none

/-- What a facade has delivered before the work of the turn: when it is switched on while
inactive, a warning for each pattern that is malformed then. -/
def warned (facade : Facade) (turn : Turn Key Memory) : List Log.Delivery :=
  match turn.order with
  | .enable =>
      if facade.isActive turn.before then []
      else
        (turn.before.policy facade.settings.policy).invalidPatterns.flatMap fun pattern =>
          turn.before.context.logging.deliveries facade.settings.logger .warn Facade.target
            (Facade.warningText pattern)
  | _ => []

/-- What a facade has delivered after the work of the turn: if there is a report, how many
of the files were compiled. -/
def summarized (facade : Facade) (turn : Turn Key Memory) : List Log.Delivery :=
  match turn.report? with
  | some report =>
      turn.after.context.logging.deliveries facade.settings.logger .info Facade.target
        (Facade.summaryText report)
  | none => []

/-- The turn of a facade is the turn of its interceptor, with its own records added: it is
answered alike, leads to a state that is the same in all but what was written, and has
delivered the same records, but for those that bear the name of the facade. -/
structure Refines (routines : Routines Key Memory) (facade : Facade)
    (turn core : Turn Key Memory) : Prop where
  ending : (⟨turn.order, turn.ending⟩ : (order : Order Key) × Ending order.Answer) =
    ⟨core.order, core.ending⟩
  after : turn.after.SameState core.after
  delivered : turn.delivered =
    turn.warned facade ++ core.delivered ++ turn.summarized facade
  kept : turn.delivered.filter (fun delivery => delivery.record.target ≠ Facade.target) =
    core.delivered
  active : facade.isActive turn.before = true -> turn.delivered = core.delivered
  /-- If the routines do not call back, an inactive facade that is switched on reports. -/
  inactive : routines.Quiet -> turn.order = .enable ->
    facade.isActive turn.before = false -> turn.report?.isSome = true
  written : turn.after.outlets = turn.delivered.foldl Log.Outlets.receive turn.before.outlets
  written_core :
    core.after.outlets = core.delivered.foldl Log.Outlets.receive core.before.outlets

end Turn

/-!
# What a facade logs
-/

def Facade.Logs (facade : Facade) (entry : Entry Key Memory) : Prop :=
  exists level message,
    entry.change = .log facade.settings.logger level Facade.target message

namespace Host

theorem exists_log_of_mem_delivered {host : Host Key Memory}
    {entries : List (Entry Key Memory)} {delivery : Log.Delivery}
    (hmem : delivery ∈ host.delivered entries) :
    exists entry logger level message, entry ∈ entries ∧
      entry.change = .log logger level delivery.record.target message := by
  induction entries generalizing host with
  | nil => cases hmem
  | cons entry rest ih =>
      rcases List.mem_append.mp hmem with hfirst | hlater
      · rcases entry with ⟨scope, change⟩
        cases change with
        | log index level target message =>
            rcases Log.record_of_mem_deliveries hfirst with ⟨last, logger, -, -, hrecord⟩
            refine ⟨_, index, level, message, List.mem_cons_self .., ?_⟩
            rw [hrecord]
            rfl
        | _ => cases hfirst
      · rcases ih hlater with ⟨later, logger, level, message, hmem, hchange⟩
        exact ⟨later, logger, level, message, List.mem_cons_of_mem entry hmem, hchange⟩

theorem target_delivered_ne {host : Host Key Memory} {entries : List (Entry Key Memory)}
    (h : forall entry, entry ∈ entries -> entry.change.IsOfCore) {delivery : Log.Delivery}
    (hmem : delivery ∈ host.delivered entries) : delivery.record.target ≠ Facade.target := by
  rcases exists_log_of_mem_delivered hmem with
    ⟨entry, logger, level, message, hentry, hchange⟩
  have hcore := h entry hentry
  rw [hchange] at hcore
  exact hcore

variable {facade : Facade} {host : Host Key Memory} {entries : List (Entry Key Memory)}

theorem target_delivered (h : forall entry, entry ∈ entries -> facade.Logs entry)
    {delivery : Log.Delivery} (hmem : delivery ∈ host.delivered entries) :
    delivery.record.target = Facade.target := by
  rcases exists_log_of_mem_delivered hmem with
    ⟨entry, logger, level, message, hentry, hchange⟩
  rcases h entry hentry with ⟨_, _, hlog⟩
  rw [hlog] at hchange
  injection hchange with _ _ htarget _
  exact htarget.symm

theorem filter_delivered_of_logs (h : forall entry, entry ∈ entries -> facade.Logs entry) :
    (host.delivered entries).filter
      (fun delivery => delivery.record.target ≠ Facade.target) = [] := by
  apply List.filter_eq_nil_iff.mpr
  intro delivery hmem
  rw [target_delivered h hmem]
  simp

theorem filter_delivered_of_core
    (h : forall entry, entry ∈ entries -> entry.change.IsOfCore) :
    (host.delivered entries).filter
      (fun delivery => delivery.record.target ≠ Facade.target) = host.delivered entries := by
  apply List.filter_eq_self.mpr
  intro delivery hmem
  exact decide_eq_true (target_delivered_ne h hmem)

theorem sameState_apply (hrecords : Log.RecordsOnly host.loggers facade.settings.logger)
    {entry : Entry Key Memory} (h : facade.Logs entry) :
    (entry.change.apply host).SameState host := by
  rcases h with ⟨level, message, hchange⟩
  rw [hchange]
  exact sameState_log hrecords level Facade.target message

theorem sameState_replay (hrecords : Log.RecordsOnly host.loggers facade.settings.logger)
    (h : forall entry, entry ∈ entries -> facade.Logs entry) :
    (host.replay entries).SameState host := by
  induction entries generalizing host with
  | nil => rfl
  | cons entry rest ih =>
      have hfirst := sameState_apply hrecords (h entry (List.mem_cons_self ..))
      have hroutes : (entry.change.apply host).routes = host.routes := routes_apply _ host
      have hrest := ih (hrecords.of_routes hroutes.symm) fun later hmem =>
        h later (List.mem_cons_of_mem entry hmem)
      exact hrest.trans hfirst

theorem delivered_eq_flatMap (hrecords : Log.RecordsOnly host.loggers facade.settings.logger)
    (h : forall entry, entry ∈ entries -> facade.Logs entry) :
    host.delivered entries = entries.flatMap fun entry => entry.delivered host := by
  induction entries with
  | nil => rfl
  | cons entry rest ih =>
      have hfirst := sameState_apply hrecords (h entry (List.mem_cons_self ..))
      rw [delivered, hfirst.delivered, List.flatMap_cons,
        ih fun later hmem => h later (List.mem_cons_of_mem entry hmem)]

theorem delivered_around {opening closing : List (Entry Key Memory)}
    (entries : List (Entry Key Memory)) {host' : Host Key Memory} (h : host.SameState host')
    (hrecords : Log.RecordsOnly host.loggers facade.settings.logger)
    (hopening : forall entry, entry ∈ opening -> facade.Logs entry)
    (hclosing : forall entry, entry ∈ closing -> facade.Logs entry) :
    (host.replay (opening ++ entries ++ closing)).SameState (host'.replay entries) ∧
      host.delivered (opening ++ entries ++ closing) =
        host.delivered opening ++ host'.delivered entries ++
          (host.replay (opening ++ entries ++ closing)).delivered closing := by
  have hopened := (sameState_replay hrecords hopening).trans h
  have hmiddle : (host.replay (opening ++ entries)).SameState (host'.replay entries) := by
    rw [replay_append]
    exact hopened.replay entries
  have hroutes := routes_replay (opening ++ entries) host
  have hclosed : (host.replay (opening ++ entries ++ closing)).SameState
      (host.replay (opening ++ entries)) := by
    rw [replay_append]
    exact sameState_replay (hrecords.of_routes hroutes.symm) hclosing
  constructor
  · exact hclosed.trans hmiddle
  · rw [delivered_append, delivered_append, hopened.delivered entries,
      hclosed.delivered closing]

end Host

namespace Facade

theorem logs_warnings (facade : Facade) (host : Host Key Memory) (scope : Scope)
    (entry : Entry Key Memory) (hmem : entry ∈ (facade.warnings host).map (⟨scope, ·⟩)) :
    facade.Logs entry := by
  rcases List.mem_map.mp hmem with ⟨change, hchange, rfl⟩
  unfold warnings at hchange
  split at hchange
  · cases hchange
  · rcases List.mem_map.mp hchange with ⟨pattern, -, rfl⟩
    exact ⟨_, _, rfl⟩

def closing (facade : Facade) : Ending (Option SweepReport) -> List (Change Key Memory)
  | .returned report? => facade.summary report?
  | _ => []

theorem logs_closing (facade : Facade) (ending : Ending (Option SweepReport)) (scope : Scope)
    (entry : Entry Key Memory) (hmem : entry ∈ (facade.closing ending).map (⟨scope, ·⟩)) :
    facade.Logs entry := by
  rcases List.mem_map.mp hmem with ⟨change, hchange, rfl⟩
  cases ending with
  | returned report? =>
      rcases List.mem_map.mp hchange with ⟨report, -, rfl⟩
      exact ⟨_, _, rfl⟩
  | panicked panic => cases hchange
  | exhausted => cases hchange

/-- Switching a facade on is switching its interceptor on, with what the facade logs. -/
theorem enableAccount_eq (routines : Routines Key Memory)
    {accounts : (call : Call Key) -> Account Key Memory call.Answer}
    (hcalls : forall call, (accounts call).IsOfCore) {facade : Facade}
    {host host' : Host Key Memory} (h : host.SameState host')
    (hrecords : Log.RecordsOnly host.loggers facade.settings.logger) (scope : Scope) :
    enableAccount routines accounts facade scope host =
      ((Account.enable routines accounts facade.interceptor scope host').1,
        (facade.warnings host).map (⟨scope, ·⟩) ++
          (Account.enable routines accounts facade.interceptor scope host').2 ++
          (facade.closing
            (Account.enable routines accounts facade.interceptor scope host').1).map
              (⟨scope, ·⟩)) := by
  -- The interceptor begins where the warnings have been written, of which it takes no notice.
  have hwarned := Host.sameState_replay hrecords (facade.logs_warnings host scope)
  have hsame := (Account.isOfCore_enable routines hcalls facade.interceptor).steady scope _ _
    (hwarned.trans h)
  have htold : Account.tell (facade.warnings host) scope host =
      (.returned (), (facade.warnings host).map (⟨scope, ·⟩)) := rfl
  simp only [enableAccount, Account.look]
  rw [Account.andThen_of_returned htold, ← hsame]
  generalize (facade.warnings host).map (Entry.mk scope) = warned
  rcases hrun : Account.enable routines accounts facade.interceptor scope (host.replay warned)
    with ⟨ending, entries⟩
  cases ending with
  | returned report? =>
      rw [Account.andThen_of_returned hrun, List.append_assoc]
      refine Prod.ext rfl ?_
      exact congrArg (fun rest => warned ++ (entries ++ rest)) (List.append_nil _)
  | panicked panic =>
      rw [Account.andThen_of_panicked hrun]
      exact congrArg (_, ·) (List.append_nil _).symm
  | exhausted =>
      rw [Account.andThen_of_exhausted hrun]
      exact congrArg (_, ·) (List.append_nil _).symm

end Facade

/-!
# Reports
-/

namespace Account

variable (routines : Routines Key Memory) (depth : Nat)

theorem ending_enable (index : Nat) (scope : Scope) (host : Host Key Memory) :
    (enable routines (perform routines depth) index scope host).1 =
      (Interceptor.enable routines (Host.perform routines depth) index host).1 := by
  rw [tells_enable routines (tells_perform routines depth) index scope host]

theorem ending_enable_of_active {index : Nat} {host : Host Key Memory}
    (h : (host.interceptor index).activation.isActive = true) (scope : Scope) :
    (enable routines (perform routines depth) index scope host).1 = .returned none := by
  rcases Activation.exists_hook h with ⟨hook, hactivation⟩
  rw [ending_enable]
  exact (Interceptor.enable_of_active routines _ hactivation).1

theorem ending_enable_of_inactive {index : Nat} {host : Host Key Memory}
    (hquiet : routines.Quiet) (h : (host.interceptor index).activation.isActive = false)
    (scope : Scope) :
    exists report,
      (enable routines (perform routines depth) index scope host).1 =
        .returned (some report) := by
  have hactivation := Activation.eq_inactive h
  rw [ending_enable]
  rcases Interceptor.enable_ending_of_inactive routines
    (Host.perform routines depth) hactivation
    with hexhausted | hreport
  · exact absurd hexhausted (Interceptor.enable_ne_exhausted hquiet _ hactivation)
  · exact hreport

end Account

/-!
# Turns of facades and of their interceptors
-/

section

variable {routines : Routines Key Memory} {depth : Nat}

namespace Turn

theorem warned_of_ne {turn : Turn Key Memory} (h : turn.order ≠ .enable) (facade : Facade) :
    turn.warned facade = [] := by
  rcases turn with ⟨order, before, ending, after, delivered⟩
  cases order with
  | enable => exact absurd rfl h
  | _ => rfl

theorem summarized_of_ne {turn : Turn Key Memory} (h : turn.order ≠ .enable)
    (facade : Facade) : turn.summarized facade = [] := by
  rcases turn with ⟨order, before, ending, after, delivered⟩
  cases order with
  | enable => exact absurd rfl h
  | _ => rfl

variable {facade : Facade} {host host' : Host Key Memory}

theorem warned_enable (hrecords : Log.RecordsOnly host.loggers facade.settings.logger)
    (ending : Ending (Option SweepReport)) (after : Host Key Memory)
    (delivered : List Log.Delivery) (scope : Scope) :
    warned facade ⟨.enable, host, ending, after, delivered⟩ =
      host.delivered ((facade.warnings host).map (⟨scope, ·⟩)) := by
  rw [Host.delivered_eq_flatMap hrecords (facade.logs_warnings host scope)]
  unfold warned Facade.warnings
  simp only
  split
  · rfl
  · rw [List.map_map, List.flatMap_map]
    rfl

theorem summarized_enable (facade : Facade) (ending : Ending (Option SweepReport))
    (before after : Host Key Memory) (delivered : List Log.Delivery) (scope : Scope) :
    summarized facade ⟨.enable, before, ending, after, delivered⟩ =
      after.delivered ((facade.closing ending).map (⟨scope, ·⟩)) := by
  cases ending with
  | returned report? =>
      cases report? with
      | none => rfl
      | some report => exact (List.append_nil _).symm
  | panicked panic => rfl
  | exhausted => rfl

theorem refines_of_ne_enable {order : Order Key} (horder : order ≠ .enable)
    (h : host.SameState host') :
    Refines routines facade (order.turn routines depth (.facade facade) host)
      (order.turn routines depth (.direct facade.interceptor) host') := by
  have hcore := order.isOfCore_account routines depth facade.interceptor
  rcases haccount : order.account routines depth (.direct facade.interceptor) {} host'
    with ⟨ending, entries⟩
  have hentries := hcore.changes {} host'
  rw [haccount] at hentries
  have hfacade : order.account routines depth (.facade facade) {} host =
    (ending, entries) := by
    rw [Order.account_facade routines depth horder, hcore.steady {} host host' h, haccount]
  rw [Order.turn_eq (.facade facade) order hfacade,
    Order.turn_eq (.direct facade.interceptor) order haccount]
  constructor
  case ending => rfl
  case after => exact h.replay entries
  case delivered =>
    rw [warned_of_ne horder, summarized_of_ne horder, List.append_nil]
    exact h.delivered entries
  case kept =>
    simp only [h.delivered entries]
    exact Host.filter_delivered_of_core hentries
  case active => exact fun _ => h.delivered entries
  case inactive => exact fun _ henable _ => absurd henable horder
  case written => exact host.outlets_replay entries
  case written_core => exact host'.outlets_replay entries

theorem refines_enable (h : host.SameState host')
    (hrecords : Log.RecordsOnly host.loggers facade.settings.logger) :
    Refines routines facade (Order.enable.turn routines depth (.facade facade) host)
      (Order.enable.turn routines depth (.direct facade.interceptor) host') := by
  have hcalls := Account.isOfCore_perform routines depth
  have hentries :=
    (Account.isOfCore_enable routines hcalls facade.interceptor).changes {} host'
  have hfacade := Facade.enableAccount_eq routines hcalls h hrecords {}
  have hsame : facade.isActive host = facade.isActive host' :=
    h.eq facade.isActive fun _ => rfl
  have hactive (h : facade.isActive host' = true) :=
    Account.ending_enable_of_active routines depth h {}
  have hinactive (hquiet : routines.Quiet) (h : facade.isActive host' = false) :=
    Account.ending_enable_of_inactive routines depth hquiet h {}
  rcases haccount : Account.enable routines (Account.perform routines depth)
    facade.interceptor {} host' with ⟨ending, entries⟩
  rw [haccount] at hentries hfacade hactive hinactive
  have hopening := facade.logs_warnings host {}
  have hclosing (entry : Entry Key Memory) := facade.logs_closing ending {} entry
  rcases Host.delivered_around entries h hrecords hopening hclosing with ⟨hafter, hdelivered⟩
  rw [Order.turn_eq (.facade facade) .enable hfacade,
    Order.turn_eq (.direct facade.interceptor) .enable haccount]
  constructor
  case ending => rfl
  case after => exact hafter
  case delivered =>
    rw [warned_enable hrecords _ _ _ {}, summarized_enable facade _ _ _ _ {}]
    exact hdelivered
  case kept =>
    simp only [hdelivered]
    rw [List.filter_append, List.filter_append, Host.filter_delivered_of_logs hopening,
      Host.filter_delivered_of_core hentries, Host.filter_delivered_of_logs hclosing,
      List.nil_append, List.append_nil]
  case active =>
    intro hbefore
    have hwarnings : facade.warnings host = ([] : List (Change Key Memory)) := if_pos hbefore
    rw [hsame] at hbefore
    have hending : ending = .returned none := hactive hbefore
    refine hdelivered.trans ?_
    rw [hwarnings, hending]
    exact List.append_nil _
  case inactive =>
    intro hquiet _ hbefore
    rw [hsame] at hbefore
    rcases hinactive hquiet hbefore with ⟨report, hreport⟩
    have hending : ending = .returned (some report) := hreport
    rw [hending]
    rfl
  case written => exact Host.outlets_replay _ _
  case written_core => exact Host.outlets_replay _ _

theorem refines_turn (order : Order Key) (h : host.SameState host')
    (hrecords : Log.RecordsOnly host.loggers facade.settings.logger) :
    Refines routines facade (order.turn routines depth (.facade facade) host)
      (order.turn routines depth (.direct facade.interceptor) host') := by
  by_cases horder : order = .enable
  · subst horder
    exact refines_enable h hrecords
  · exact refines_of_ne_enable horder h

theorem refines_turns (orders : List (Order Key)) (h : host.SameState host')
    (hrecords : Log.RecordsOnly host.loggers facade.settings.logger) :
    List.Forall₂ (Refines routines facade)
      ((Controller.facade facade).turns routines depth orders host)
      ((Controller.direct facade.interceptor).turns routines depth orders host') := by
  induction orders generalizing host host' with
  | nil => exact List.Forall₂.nil
  | cons order rest ih =>
      have hfirst : Refines routines facade (order.turn routines depth (.facade facade) host)
          (order.turn routines depth (.direct facade.interceptor) host') :=
        refines_turn order h hrecords
      refine List.Forall₂.cons hfirst (ih hfirst.after ?_)
      have htold := Order.tells_account routines depth (.facade facade) order {} host
      have hroutes := Host.routes_replay
        (order.account routines depth (.facade facade) {} host).2 host
      unfold Order.turn
      rw [htold]
      exact hrecords.of_routes hroutes.symm

/-- Each turn of a facade is a turn of its interceptor with the records of the facade
added, and if these are taken out of all that was delivered in the run, the records of the
interceptor remain. -/
structure AllRefine (routines : Routines Key Memory) (facade : Facade)
    (turns cores : List (Turn Key Memory)) : Prop where
  each : List.Forall₂ (Refines routines facade) turns cores
  kept : (turns.flatMap (·.delivered)).filter
      (fun delivery => delivery.record.target ≠ Facade.target) =
    cores.flatMap (·.delivered)

theorem allRefine_of_forall {turns cores : List (Turn Key Memory)}
    (h : List.Forall₂ (Refines routines facade) turns cores) :
    AllRefine routines facade turns cores where
  each := h
  kept := by
    induction h with
    | nil => rfl
    | cons hfirst _ ih =>
        rw [List.flatMap_cons, List.flatMap_cons, List.filter_append, hfirst.kept, ih]

end Turn
end

namespace Settings

/-- A run with a facade refines the run with an interceptor for the same settings, if their
logger only records. -/
theorem facadeTurns_refine_coreTurns (routines : Routines Key Memory) (depth : Nat)
    (settings : Settings) (orders : List (Order Key)) (base : Host Key Memory)
    (hrecords : Log.RecordsOnly base.loggers settings.logger) :
    Turn.AllRefine routines ⟨base.interceptors.length, settings⟩
      (settings.facadeTurns routines depth orders base)
      (settings.coreTurns routines depth orders base) :=
  Turn.allRefine_of_forall (Turn.refines_turns orders rfl hrecords)

def inherited : Host Nat Unit where
  context :=
    { logging :=
        { loggers := [{ level := .info, sinks := [.memory, .ring 0] }]
          outlets := { rings := [{ capacity := 3 }] } }
      policies := [Policy.empty.push (.ofRegex "(x")] }
  suffixes := [".el"]
  history := [⟨Path.ofString "a.el", none⟩]
  memory := ()

/-- Interception is switched on twice, and again after a second malformed expression has
come into the policy. -/
def reenabling : List (Order Nat) :=
  [.enable, .enable, .call (.load (Path.ofString "b.el")), .tally,
    .call (.editPolicy 0 (·.push (.ofRegex "[y"))), .disable,
    .compile (Path.ofString "b.txt"),
    .enable, .editSuffixes fun _ => [], .isEligible (Path.ofString "a.el"), .call .runPending]

theorem facadeTurns_refine_coreTurns_reenabling :
    Log.RecordsOnly inherited.loggers 0 ∧
      Turn.AllRefine .plain ⟨0, ⟨0, 0⟩⟩
        (facadeTurns .plain 0 ⟨0, 0⟩ reenabling inherited)
        (coreTurns .plain 0 ⟨0, 0⟩ reenabling inherited) ∧
      (((facadeTurns .plain 0 ⟨0, 0⟩ reenabling inherited).flatMap (·.delivered)).filter
          fun delivery => delivery.sink = .memory ∧
            delivery.record.target = Facade.target).map
            (fun delivery => (delivery.record.level, delivery.record.message)) =
        [(.warn, "Exclusion pattern regex /(x/ is invalid and will never match"),
          (.info, "Compiled 1 of 1 previously loaded files"),
          (.warn, "Exclusion pattern regex /(x/ is invalid and will never match"),
          (.warn, "Exclusion pattern regex /[y/ is invalid and will never match"),
          (.info, "Compiled 2 of 2 previously loaded files")] := by
  have hrecords : Log.RecordsOnly inherited.loggers 0 := by
    apply Log.recordsOnly_of_sinks
    decide
  exact ⟨hrecords, facadeTurns_refine_coreTurns .plain 0 ⟨0, 0⟩ reenabling inherited hrecords,
    by decide +kernel⟩

end Settings
end CompileOnLoad
