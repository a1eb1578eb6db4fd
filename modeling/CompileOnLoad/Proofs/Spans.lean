import CompileOnLoad.Proofs.Nesting

/-!
# Open spans

A logger closes whichever of its spans is innermost.  That this is always the span
which the host means to close follows from the nesting of what hosts do: whatever
ends within a span, and however it ends, leaves the stack of each logger as it was.
So the stack of a logger is, in each state, that of the spans of the scope, on top of
those that were open before.
-/

namespace CompileOnLoad

variable {Key Memory : Type}

namespace Log.Logging

variable {logging : Logging} {f : Logger -> Logger}

theorem logger_update_of_ne {index other : Nat} (h : index ≠ other) :
    (logging.update index f).logger other = logging.logger other := by
  simp [logger, update, List.getD_eq_getElem?_getD, h]

theorem logger_update {index : Nat} (h : index < logging.loggers.length) :
    (logging.update index f).logger index = f (logging.logger index) := by
  simp [logger, update, List.getD_eq_getElem?_getD, h]

theorem logger_update_of_le {index : Nat} (h : logging.loggers.length ≤ index) :
    (logging.update index f).logger index = logging.logger index := by
  simp [logger, update, List.getD_eq_getElem?_getD, h]

end Log.Logging

theorem Context.loggers_receive (context : Context) (delivery : Log.Delivery) :
    (context.receive delivery).logging.loggers = context.logging.loggers := by
  unfold receive
  split
  · split
    · rfl
    · rfl
  · rfl

theorem Context.loggers_log (context : Context) (logger : Nat) (level : Log.Level)
    (target message : String) :
    (context.log logger level target message).logging.loggers = context.logging.loggers := by
  unfold log
  generalize context.logging.deliveries logger level target message = deliveries
  induction deliveries generalizing context with
  | nil => rfl
  | cons delivery rest ih => rw [List.foldl_cons, ih, loggers_receive]

namespace Host

variable {host : Host Key Memory}

def loggers (host : Host Key Memory) : List Log.Logger :=
  host.context.logging.loggers

def spans (host : Host Key Memory) (logger : Nat) : List Nat :=
  (host.context.logging.logger logger).spans

def nextSpan (host : Host Key Memory) (logger : Nat) : Nat :=
  (host.context.logging.logger logger).nextSpan

/-!
# Single changes
-/

theorem spans_enterSpan {logger : Nat} (h : logger < host.loggers.length) :
    (host.enterSpan logger).spans logger = host.nextSpan logger :: host.spans logger :=
  congrArg Log.Logger.spans (Log.Logging.logger_update h)

theorem spans_enterSpan_of_ne {logger other : Nat} (h : logger ≠ other) :
    (host.enterSpan logger).spans other = host.spans other :=
  congrArg Log.Logger.spans (Log.Logging.logger_update_of_ne h)

theorem nextSpan_enterSpan {logger : Nat} (h : logger < host.loggers.length) :
    (host.enterSpan logger).nextSpan logger = host.nextSpan logger + 1 :=
  congrArg Log.Logger.nextSpan (Log.Logging.logger_update h)

theorem nextSpan_enterSpan_of_ne {logger other : Nat} (h : logger ≠ other) :
    (host.enterSpan logger).nextSpan other = host.nextSpan other :=
  congrArg Log.Logger.nextSpan (Log.Logging.logger_update_of_ne h)

theorem spans_leaveSpan_of_ne {logger other : Nat} (h : logger ≠ other) :
    (host.leaveSpan logger).spans other = host.spans other :=
  congrArg Log.Logger.spans (Log.Logging.logger_update_of_ne h)

theorem nextSpan_leaveSpan (logger other : Nat) :
    (host.leaveSpan logger).nextSpan other = host.nextSpan other := by
  by_cases hsame : logger = other
  · rw [← hsame]
    rcases Nat.lt_or_ge logger host.loggers.length with hin | hout
    · have hleft := congrArg Log.Logger.nextSpan
        (Log.Logging.logger_update (f := Log.Logger.leave) hin)
      exact hleft
    · exact congrArg Log.Logger.nextSpan (Log.Logging.logger_update_of_le hout)
  · exact congrArg Log.Logger.nextSpan (Log.Logging.logger_update_of_ne hsame)

/-- A span that is closed with the stack that it left gives back the stack before. -/
theorem spans_leaveSpan_of_entered {after : Host Key Memory} {logger : Nat}
    (hafter : forall other, after.spans other = (host.enterSpan logger).spans other)
    (hlength : after.loggers.length = host.loggers.length) (other : Nat) :
    (after.leaveSpan logger).spans other = host.spans other := by
  by_cases hsame : logger = other
  · rw [← hsame]
    rcases Nat.lt_or_ge logger host.loggers.length with hin | hout
    · have hstack := hafter logger
      rw [spans_enterSpan hin] at hstack
      have hin' : logger < after.context.logging.loggers.length := by
        rw [← hlength] at hin
        exact hin
      have hleft : (after.leaveSpan logger).spans logger = (after.spans logger).tail :=
        congrArg Log.Logger.spans (Log.Logging.logger_update hin')
      rw [hleft, hstack]
      rfl
    · have hout' : after.context.logging.loggers.length ≤ logger := by
        rw [← hlength] at hout
        exact hout
      have hleft : (after.leaveSpan logger).spans logger = after.spans logger :=
        congrArg Log.Logger.spans (Log.Logging.logger_update_of_le hout')
      have hentered : (host.enterSpan logger).spans logger = host.spans logger :=
        congrArg Log.Logger.spans (Log.Logging.logger_update_of_le hout)
      rw [hleft, hafter, hentered]
  · rw [spans_leaveSpan_of_ne hsame, hafter, spans_enterSpan_of_ne hsame]

theorem loggers_apply_of_isPlain {change : Change Key Memory} (h : change.IsPlain)
    (host : Host Key Memory) : (change.apply host).loggers = host.loggers := by
  cases change with
  | log logger level target message => exact Context.loggers_log host.context logger level _ _
  | enter span => cases h
  | leave span => cases h
  | take request => cases h
  | _ => rfl

theorem length_loggers_apply (change : Change Key Memory) (host : Host Key Memory) :
    (change.apply host).loggers.length = host.loggers.length := by
  cases change with
  | log logger level target message =>
      exact congrArg List.length (Context.loggers_log host.context logger level _ _)
  | enter span => exact List.length_modify _ _ _
  | leave span => exact List.length_modify _ _ _
  | _ => rfl

theorem length_loggers_replay (entries : List (Entry Key Memory))
    (host : Host Key Memory) :
    (host.replay entries).loggers.length = host.loggers.length := by
  induction entries generalizing host with
  | nil => rfl
  | cons entry rest ih => exact (ih _).trans (length_loggers_apply entry.change host)

end Host

/-!
# The stack in a scope
-/

namespace Scope

theorem stack_opened (scope : Scope) (span : OpenSpan) :
    (scope.opened span).stack span.logger = span.id :: scope.stack span.logger := by
  simp [stack, opened]

theorem stack_opened_of_ne (scope : Scope) {span : OpenSpan} {logger : Nat}
    (h : span.logger ≠ logger) : (scope.opened span).stack logger = scope.stack logger := by
  simp [stack, opened, h]

end Scope

/-- Whatever is done within a scope leaves the stack of each logger as it was. -/
theorem Nested.spans_replay {scope : Scope} {host : Host Key Memory}
    {entries : List (Entry Key Memory)} (h : Nested scope host entries) (logger : Nat) :
    (host.replay entries).spans logger = host.spans logger := by
  induction h generalizing logger with
  | nil => rfl
  | @plain scope host change h =>
      have hloggers := Host.loggers_apply_of_isPlain h host
      exact congrArg (fun loggers => (loggers.getD logger Log.Logger.silent).spans) hloggers
  | take h => rfl
  | append first later ihfirst ihlater =>
      rw [Host.replay_append, ihlater, ihfirst]
  | routine inner ih => exact ih logger
  | @span scope host entries span next inner ih =>
      have hlength := Host.length_loggers_replay entries (host.enterSpan span.logger)
      rw [List.cons_append, ← List.singleton_append, Host.replay_append, Host.replay_append]
      exact Host.spans_leaveSpan_of_entered ih
        (hlength.trans (Host.length_loggers_apply (.enter span) host)) logger

theorem Performed.spans_replay {scope : Scope} {host : Host Key Memory}
    {entries : List (Entry Key Memory)} (h : Performed scope host entries) (logger : Nat) :
    (host.replay entries).spans logger = host.spans logger := by
  cases h with
  | nested h => exact h.spans_replay logger
  | @swept start entries span before next inner =>
      have hlength := Host.length_loggers_replay entries
        ((host.replay start).enterSpan span.logger)
      rw [Host.replay_append, List.cons_append, ← List.singleton_append,
        Host.replay_append, Host.replay_append]
      refine (Host.spans_leaveSpan_of_entered inner.spans_replay
        (hlength.trans (Host.length_loggers_apply (.enter span) _)) logger).trans ?_
      exact before.spans_replay logger

/-- Where a plain change is made, the stack of a logger is that of the scope, on top of
some spans. -/
def Entry.StandsOn (logger : Nat) (base : List Nat) (host : Host Key Memory)
    (entry : Entry Key Memory) : Prop :=
  entry.change.IsPlain -> host.spans logger = entry.scope.stack logger ++ base

theorem Host.throughout_standsOn_span {scope : Scope} {host : Host Key Memory}
    {span : OpenSpan} {entries : List (Entry Key Memory)} {logger : Nat} {base : List Nat}
    (hnext : span.IsNext host) (hin : logger < host.loggers.length)
    (hstart : host.spans logger = scope.stack logger ++ base)
    (hinner : logger < (host.enterSpan span.logger).loggers.length ->
      (host.enterSpan span.logger).spans logger =
        (scope.opened span).stack logger ++ base ->
      (host.enterSpan span.logger).Throughout (Entry.StandsOn logger base) entries) :
    host.Throughout (Entry.StandsOn logger base)
      (⟨scope, .enter span⟩ :: entries ++ [⟨scope, .leave span⟩]) := by
  have hin' : logger < (host.enterSpan span.logger).loggers.length := by
    rw [show (host.enterSpan span.logger).loggers.length = host.loggers.length from
      length_loggers_apply (.enter span) host]
    exact hin
  have hopened : (host.enterSpan span.logger).spans logger =
      (scope.opened span).stack logger ++ base := by
    by_cases hsame : span.logger = logger
    · subst hsame
      rw [spans_enterSpan hin, Scope.stack_opened, hstart, hnext]
      rfl
    · rw [spans_enterSpan_of_ne hsame, Scope.stack_opened_of_ne scope hsame, hstart]
  refine ⟨fun hplain => hplain.elim, ?_⟩
  exact throughout_append.mpr ⟨hinner hin' hopened, fun hplain => hplain.elim, trivial⟩

theorem Nested.standsOn {scope : Scope} {host : Host Key Memory}
    {entries : List (Entry Key Memory)} (h : Nested scope host entries) {logger : Nat}
    {base : List Nat} (hin : logger < host.loggers.length)
    (hstart : host.spans logger = scope.stack logger ++ base) :
    host.Throughout (Entry.StandsOn logger base) entries := by
  induction h with
  | nil => trivial
  | plain h => exact ⟨fun _ => hstart, trivial⟩
  | take h => exact ⟨fun hplain => hplain.elim, trivial⟩
  | @append scope host entries more first later ihfirst ihlater =>
      apply Host.throughout_append.mpr
      constructor
      · exact ihfirst hin hstart
      · apply ihlater
        · rw [Host.length_loggers_replay]
          exact hin
        · rw [first.spans_replay]
          exact hstart
  | routine inner ih => exact ih hin hstart
  | span next inner ih => exact Host.throughout_standsOn_span next hin hstart ih

theorem Performed.standsOn {scope : Scope} {host : Host Key Memory}
    {entries : List (Entry Key Memory)} (h : Performed scope host entries) {logger : Nat}
    {base : List Nat} (hin : logger < host.loggers.length)
    (hstart : host.spans logger = scope.stack logger ++ base) :
    host.Throughout (Entry.StandsOn logger base) entries := by
  cases h with
  | nested h => exact h.standsOn hin hstart
  | @swept start entries span before next inner =>
      apply Host.throughout_append.mpr
      constructor
      · exact before.standsOn hin hstart
      · apply Host.throughout_standsOn_span next
        · rw [Host.length_loggers_replay]
          exact hin
        · rw [before.spans_replay]
          exact hstart
        · exact inner.standsOn

namespace Host

variable {host : Host Key Memory}

/-- Operations leave the stack of each logger as it was, however they end. -/
theorem spans_act (routines : Routines Key Memory) (depth : Nat)
    (operation : Operation Key) (host : Host Key Memory) (logger : Nat) :
    (operation.act routines depth host).2.spans logger = host.spans logger := by
  rw [Account.tells_operation routines depth operation {} host]
  exact (Account.performed_operation routines depth operation {} host).spans_replay logger

theorem standsOn_told (routines : Routines Key Memory) (depth : Nat)
    (operations : List (Operation Key)) (host : Host Key Memory) {logger : Nat}
    (hin : logger < host.loggers.length) :
    host.Throughout (Entry.StandsOn logger (host.spans logger))
      (told routines depth operations host) := by
  have hgeneral (base : List Nat) (hstart : host.spans logger = base) :
      host.Throughout (Entry.StandsOn logger base) (told routines depth operations host) := by
    induction operations generalizing host with
    | nil => trivial
    | cons operation rest ih =>
        have hperformed := Account.performed_operation routines depth operation {} host
        apply throughout_append.mpr
        constructor
        · exact hperformed.standsOn hin hstart
        · apply ih
          · rw [length_loggers_replay]
            exact hin
          · rw [hperformed.spans_replay]
            exact hstart
  exact hgeneral _ rfl

/-!
# Numbers of spans
-/

def openedIn (logger : Nat) (entries : List (Entry Key Memory)) : List Nat :=
  entries.filterMap fun entry =>
    match entry.change with
    | .enter span => if span.logger = logger then some span.id else none
    | _ => none

theorem openedIn_append (logger : Nat) (entries more : List (Entry Key Memory)) :
    openedIn logger (entries ++ more) = openedIn logger entries ++ openedIn logger more :=
  List.filterMap_append

theorem nextSpan_apply (entry : Entry Key Memory) {logger : Nat}
    (hin : logger < host.loggers.length) :
    (entry.change.apply host).nextSpan logger =
      host.nextSpan logger + (openedIn logger [entry]).length := by
  rcases entry with ⟨scope, change⟩
  cases change with
  | enter span =>
      by_cases hsame : span.logger = logger
      · subst hsame
        simp only [openedIn, List.filterMap_cons, List.filterMap_nil, if_true]
        exact nextSpan_enterSpan hin
      · simp only [openedIn, List.filterMap_cons, List.filterMap_nil, if_neg hsame]
        exact nextSpan_enterSpan_of_ne hsame
  | leave span => exact nextSpan_leaveSpan span.logger logger
  | log other level target message =>
      have hloggers := Context.loggers_log host.context other level target message
      exact congrArg (fun loggers =>
        (loggers.getD logger Log.Logger.silent).nextSpan) hloggers
  | _ => rfl

theorem openedIn_singleton {entry : Entry Key Memory} (hfits : entry.Fits host)
    (logger : Nat) :
    openedIn logger [entry] =
      List.range' (host.nextSpan logger) (openedIn logger [entry]).length := by
  rcases entry with ⟨scope, change⟩
  cases change with
  | enter span =>
      by_cases hsame : span.logger = logger
      · subst hsame
        simp only [openedIn, List.filterMap_cons, List.filterMap_nil, if_true]
        exact congrArg (fun id => [id]) hfits
      · simp only [openedIn, List.filterMap_cons, List.filterMap_nil, if_neg hsame]
        rfl
  | _ => rfl

theorem openedIn_eq_range {entries : List (Entry Key Memory)} {logger : Nat}
    (hfits : host.Throughout Entry.Fits entries) (hin : logger < host.loggers.length) :
    openedIn logger entries =
      List.range' (host.nextSpan logger) (openedIn logger entries).length := by
  induction entries generalizing host with
  | nil => rfl
  | cons entry rest ih =>
      have hin' : logger < (entry.change.apply host).loggers.length := by
        rw [length_loggers_apply]
        exact hin
      have hrest := ih hfits.2 hin'
      rw [nextSpan_apply entry hin] at hrest
      rw [← List.singleton_append, openedIn_append, List.length_append,
        ← List.range'_append_1, ← openedIn_singleton hfits.1 logger, ← hrest]

theorem nodup_openedIn {entries : List (Entry Key Memory)} {logger : Nat}
    (hfits : host.Throughout Entry.Fits entries) (hin : logger < host.loggers.length) :
    (openedIn logger entries).Nodup := by
  rw [openedIn_eq_range hfits hin]
  exact List.nodup_range'

end Host
end CompileOnLoad
