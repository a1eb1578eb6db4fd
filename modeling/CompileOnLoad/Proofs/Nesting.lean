import CompileOnLoad.Proofs.Account

/-!
# How accounts are nested

Scopes are not chosen freely.  What a host does itself it does in the scope that
it is in; what a routine does is deeper; and a span is open around what is done
between its entering and its leaving.  All accounts are nested in this way, so
facts about scopes are proved by induction on the nesting.
-/

namespace CompileOnLoad

variable {Key Memory α β : Type}

namespace Change

def IsPlain : Change Key Memory -> Prop
  | enter _ => False
  | leave _ => False
  | take _ => False
  | _ => True

end Change

namespace OpenSpan

def IsNext (span : OpenSpan) (host : Host Key Memory) : Prop :=
  span.id = (host.context.logging.logger span.logger).nextSpan

end OpenSpan

/-- The entries are made from a state on by what is done in a scope. -/
inductive Nested : Scope -> Host Key Memory -> List (Entry Key Memory) -> Prop where
  | nil {scope : Scope} {host : Host Key Memory} : Nested scope host []
  | plain {scope : Scope} {host : Host Key Memory} {change : Change Key Memory}
      (h : change.IsPlain) : Nested scope host [⟨scope, change⟩]
  | take {scope : Scope} {host : Host Key Memory} {request : Request}
      (h : host.queue.head? = some request) : Nested scope host [⟨scope, .take request⟩]
  | append {scope : Scope} {host : Host Key Memory}
      {entries more : List (Entry Key Memory)}
      (first : Nested scope host entries) (later : Nested scope (host.replay entries) more) :
      Nested scope host (entries ++ more)
  | routine {scope : Scope} {host : Host Key Memory} {entries : List (Entry Key Memory)}
      (inner : Nested scope.deeper host entries) : Nested scope host entries
  /-- The span of a compile is open around what its compiler does. -/
  | span {scope : Scope} {host : Host Key Memory} {entries : List (Entry Key Memory)}
      {span : OpenSpan} (next : span.IsNext host)
      (inner : Nested (scope.opened span).deeper (host.enterSpan span.logger) entries) :
      Nested scope host (⟨scope, .enter span⟩ :: entries ++ [⟨scope, .leave span⟩])

theorem nested_map {scope : Scope} {changes : List (Change Key Memory)}
    (h : forall change, change ∈ changes -> change.IsPlain) (host : Host Key Memory) :
    Nested scope host (changes.map (⟨scope, ·⟩)) := by
  induction changes generalizing host with
  | nil => exact Nested.nil
  | cons change rest ih =>
      have hrest := ih (fun later hmem => h later (List.mem_cons_of_mem change hmem))
        (host.replay [⟨scope, change⟩])
      exact Nested.append (Nested.plain (h change (List.mem_cons_self ..))) hrest

namespace Account

def IsNested (account : Account Key Memory α) : Prop :=
  forall scope host, Nested scope host (account scope host).2

theorem nested_andThen {account : Account Key Memory α}
    {next : α -> Account Key Memory β} {scope : Scope} {host : Host Key Memory}
    (haccount : Nested scope host (account scope host).2)
    (hnext : forall a, Nested scope (host.replay (account scope host).2)
      (next a scope (host.replay (account scope host).2)).2) :
    Nested scope host ((account.andThen next) scope host).2 := by
  revert haccount hnext
  unfold andThen
  rcases account scope host with ⟨ending, entries⟩
  intro haccount hnext
  cases ending with
  | returned a => exact Nested.append haccount (hnext a)
  | panicked panic => exact haccount
  | exhausted => exact haccount

theorem isNested_ended (ending : Ending α) :
    (ended ending : Account Key Memory α).IsNested := by
  intro scope host
  exact Nested.nil

theorem isNested_returned (a : α) : (returned a : Account Key Memory α).IsNested :=
  isNested_ended _

theorem isNested_tell {changes : List (Change Key Memory)}
    (h : forall change, change ∈ changes -> change.IsPlain) : (tell changes).IsNested := by
  intro scope host
  exact nested_map h host

theorem isNested_andThen {account : Account Key Memory α}
    {next : α -> Account Key Memory β} (haccount : account.IsNested)
    (hnext : forall a, (next a).IsNested) : (account.andThen next).IsNested := by
  intro scope host
  exact nested_andThen (haccount scope host) fun a => hnext a scope _

theorem isNested_look {next : Host Key Memory -> Account Key Memory α}
    (h : forall host, (next host).IsNested) : (look next).IsNested := by
  intro scope host
  exact h host scope host

theorem isNested_byRoutine {account : Account Key Memory α} (h : account.IsNested) :
    account.byRoutine.IsNested := by
  intro scope host
  exact Nested.routine (h scope.deeper host)

theorem isNested_inSpan_byRoutine {account : Account Key Memory α} (h : account.IsNested)
    (work : Work) (logger : Nat) : (account.byRoutine.inSpan work logger).IsNested := by
  intro scope host
  exact Nested.span rfl (h _ _)

variable {accounts : (call : Call Key) -> Account Key Memory call.Answer}

theorem isNested_script (hcalls : forall call, (accounts call).IsNested)
    (s : Script Key Memory α) : (script accounts s).IsNested := by
  induction s with
  | done a => exact isNested_returned a
  | panic p => exact isNested_ended (.panicked p)
  | consult next ih => exact isNested_look fun host => ih host.memory
  | store memory next ih =>
      apply isNested_andThen _ fun _ => ih
      apply isNested_tell
      simp [Change.IsPlain]
  | call c next ih => exact isNested_andThen (hcalls c) ih

theorem IsNested.after {account : Account Key Memory α} (h : account.IsNested)
    {changes : List (Change Key Memory)}
    (hchanges : forall change, change ∈ changes -> change.IsPlain) :
    ((tell changes).andThen fun _ => account).IsNested :=
  isNested_andThen (isNested_tell hchanges) fun _ => h

end Account

/-!
# Visits

What visits to observers do is put together from few parts, so what holds of these
and is kept by putting accounts together holds of all visits.
-/

def Change.IsOfVisit : Change Key Memory -> Prop
  | log _ _ _ _ => True
  | count _ _ => True
  | enqueue _ => True
  | _ => False

/-- A property of accounts that is kept by putting them together, and holds where
something is just told. -/
structure HoldsOfTelling (P : {α : Type} -> Account Key Memory α -> Prop) : Prop where
  ended : forall {α : Type} (ending : Ending α), P (Account.ended ending)
  tell : forall {changes : List (Change Key Memory)},
    (forall change, change ∈ changes -> change.IsOfVisit) -> P (Account.tell changes)
  andThen : forall {α β : Type} {account : Account Key Memory α}
    {next : α -> Account Key Memory β}, P account -> (forall a, P (next a)) ->
      P (account.andThen next)
  look : forall {α : Type} {next : Host Key Memory -> Account Key Memory α},
    (forall host, P (next host)) -> P (Account.look next)

namespace HoldsOfTelling

variable {P : {α : Type} -> Account Key Memory α -> Prop}

theorem after (hP : HoldsOfTelling P) {account : Account Key Memory α}
    (h : P account) {changes : List (Change Key Memory)}
    (hchanges : forall change, change ∈ changes -> change.IsOfVisit) :
    P ((Account.tell changes).andThen fun _ => account) :=
  hP.andThen (hP.tell hchanges) fun _ => h

theorem skip (hP : HoldsOfTelling P) (index : Nat) (path? : Option Path)
    (verdict : Verdict) : P (Account.skip index path? verdict) := by
  apply hP.look
  intro host
  apply hP.after (hP.ended (.returned Outcome.skipped))
  cases path? with
  | none => simp [Change.IsOfVisit]
  | some path => simp [Change.IsOfVisit]

theorem fail (hP : HoldsOfTelling P) (index : Nat) (source : Path)
    (failure : CompileFailure) : P (Account.fail index source failure) := by
  apply hP.look
  intro host
  apply hP.after (hP.ended (.returned (Outcome.failed failure)))
  simp [Change.IsOfVisit]

theorem succeed (hP : HoldsOfTelling P) (index : Nat) (source artifact : Path) :
    P (Account.succeed index source artifact) := by
  apply hP.look
  intro host
  apply hP.after (hP.ended (.returned (Outcome.compiled artifact)))
  simp [Change.IsOfVisit]

theorem settle (hP : HoldsOfTelling P) (index : Nat) (source : Path)
    (ending : Ending (Except CompileFailure Path)) :
    P (Account.settle index source ending) := by
  cases ending with
  | returned result =>
      cases result with
      | ok artifact => exact hP.succeed index source artifact
      | error failure => exact hP.fail index source failure
  | panicked panic => exact hP.fail index source _
  | exhausted => exact hP.ended .exhausted

end HoldsOfTelling

/-- The property holds of the parts of visits, when routines do their work. -/
structure HoldsOfParts (routines : Routines Key Memory)
    (accounts : (call : Call Key) -> Account Key Memory call.Answer)
    (P : {α : Type} -> Account Key Memory α -> Prop) : Prop extends HoldsOfTelling P where
  observing : forall (key : Key) (path? : Option Path),
    P (Account.script accounts (routines.observe key path?)).byRoutine
  compiling : forall (engine : Nat) (source : Path) (work : Work) (logger : Nat),
    P ((Account.script accounts (routines.compile engine source)).byRoutine.inSpan
      work logger)

namespace HoldsOfParts

variable {accounts : (call : Call Key) -> Account Key Memory call.Answer}
variable {P : {α : Type} -> Account Key Memory α -> Prop}

variable {routines : Routines Key Memory}

theorem compile (hP : HoldsOfParts routines accounts P) (index : Nat) (path? : Option Path) :
    P (Account.compile routines accounts index path?) := by
  apply hP.look
  intro host
  apply hP.after
  · split
    · apply hP.after _ (by simp [Change.IsOfVisit])
      apply hP.look
      intro host
      exact hP.andThen (hP.compiling index _ _ _) (hP.settle index _)
    · exact hP.skip index _ _
  · intro change hmem
    rcases List.mem_map.mp hmem with ⟨error, -, rfl⟩
    trivial

theorem visit (hP : HoldsOfParts routines accounts P) (path? : Option Path)
    (observer : Observer Key) : P (Account.visit routines accounts path? observer) := by
  cases observer with
  | hook engine =>
      apply hP.andThen (hP.compile engine path?)
      intro outcome
      exact hP.ended _
  | action name key => exact hP.observing key path?

theorem visitAll (hP : HoldsOfParts routines accounts P) (path? : Option Path)
    (hmark : forall observer, P (Account.tell [.visit observer path?]))
    (observers : List (Observer Key)) :
    P (Account.visitAll routines accounts path? observers) := by
  induction observers with
  | nil => exact hP.ended _
  | cons observer rest ih =>
      apply hP.andThen (hmark observer)
      intro _
      apply hP.andThen (hP.visit path? observer)
      intro disposition
      apply hP.look
      intro host
      cases disposition with
      | handled =>
          apply hP.after (hP.ended _)
          simp [Account.visitReports, Change.IsOfVisit]
      | passThrough =>
          apply hP.after (hP.andThen ih fun report => hP.ended _)
          simp [Account.visitReports, Change.IsOfVisit]

end HoldsOfParts

namespace Account

variable {accounts : (call : Call Key) -> Account Key Memory call.Answer}

theorem isPlain_of_isOfVisit {change : Change Key Memory} (h : change.IsOfVisit) :
    change.IsPlain := by
  cases change with
  | enter span => cases h
  | leave span => cases h
  | take request => cases h
  | _ => trivial

variable (routines : Routines Key Memory)

theorem holdsOfParts_isNested (hcalls : forall call, (accounts call).IsNested) :
    HoldsOfParts routines accounts IsNested where
  ended := isNested_ended
  tell h := isNested_tell fun change hmem => isPlain_of_isOfVisit (h change hmem)
  andThen := isNested_andThen
  look := isNested_look
  observing _ _ := isNested_byRoutine (isNested_script hcalls _)
  compiling _ _ := isNested_inSpan_byRoutine (isNested_script hcalls _)

/-!
# All accounts are nested
-/

theorem isNested_compile (hcalls : forall call, (accounts call).IsNested)
    (index : Nat) (path? : Option Path) :
    (compile routines accounts index path?).IsNested :=
  (holdsOfParts_isNested routines hcalls).compile index path?

theorem isNested_visitAll (hcalls : forall call, (accounts call).IsNested)
    (path? : Option Path) (observers : List (Observer Key)) :
    (visitAll routines accounts path? observers).IsNested := by
  apply (holdsOfParts_isNested routines hcalls).visitAll path?
  intro observer
  exact isNested_tell (by simp [Change.IsPlain])

theorem isNested_announce (hcalls : forall call, (accounts call).IsNested)
    (path? : Option Path) : (announce routines accounts path?).IsNested := by
  apply isNested_look
  intro host
  apply (isNested_visitAll routines hcalls path? _).after
  simp [Change.IsPlain]

theorem isNested_load (hcalls : forall call, (accounts call).IsNested)
    (source : Path) : (load routines accounts source).IsNested := by
  apply (isNested_announce routines hcalls (some source)).after
  simp [Change.IsPlain]

theorem isNested_execute (hcalls : forall call, (accounts call).IsNested)
    (artifact : Path) : (execute routines accounts artifact).IsNested := by
  apply isNested_andThen (isNested_byRoutine (isNested_script hcalls _))
  intro linked
  apply IsNested.after _ (by simp [Change.IsPlain])
  apply isNested_look
  intro host
  cases linked with
  | ok _ =>
      apply IsNested.after _ (by simp [Change.IsPlain])
      exact isNested_andThen (isNested_announce routines hcalls (some artifact))
        fun _ => isNested_returned _
  | error failure =>
      apply (isNested_returned _).after
      simp [Change.IsPlain]

theorem isNested_runRequests (hcalls : forall call, (accounts call).IsNested) (n : Nat) :
    (runRequests routines accounts n).IsNested := by
  induction n with
  | zero => exact isNested_returned _
  | succ n ih =>
      intro scope host
      simp only [runRequests, look]
      cases hqueue : host.queue with
      | nil => exact Nested.nil
      | cons request queue =>
          apply nested_andThen (Nested.take (congrArg List.head? hqueue))
          intro _
          have hexecuted := isNested_andThen
            (isNested_execute routines hcalls request.artifact) fun result =>
              isNested_andThen ih fun report =>
                isNested_returned (RunReport.note request.artifact result report)
          exact hexecuted scope _

theorem isNested_runPending (hcalls : forall call, (accounts call).IsNested) :
    (runPending routines accounts).IsNested :=
  isNested_look fun _ => isNested_runRequests routines hcalls _

theorem isNested_sweepFiles (hcalls : forall call, (accounts call).IsNested)
    (engine : Nat) (files : List LoadedFile) (report : SweepReport) :
    (sweepFiles routines accounts engine report files).IsNested := by
  induction files generalizing report with
  | nil => exact isNested_returned report
  | cons file rest ih =>
      apply isNested_andThen (isNested_compile routines hcalls engine _)
      intro outcome
      exact ih (report.note outcome)

theorem isNested_sweepBody (hcalls : forall call, (accounts call).IsNested)
    (logger engine : Nat) (files : List LoadedFile) :
    (sweepBody routines accounts logger engine files).IsNested := by
  apply IsNested.after _ (by simp [Change.IsPlain])
  apply isNested_andThen (isNested_sweepFiles routines hcalls engine files {})
  intro report
  apply (isNested_returned report).after
  simp [Change.IsPlain]

theorem isNested_disable (index : Nat) :
    (disable index : Account Key Memory Bool).IsNested := by
  apply isNested_look
  intro host
  simp only
  split
  · exact isNested_returned false
  · apply (isNested_returned true).after
    split
    · simp [Change.IsPlain]
    · simp [Change.IsPlain]

theorem isNested_handle (hcalls : forall call, (accounts call).IsNested)
    (index : Nat) (path? : Option Path) :
    (handle routines accounts index path?).IsNested := by
  apply isNested_look
  intro host
  apply isNested_andThen (isNested_compile routines hcalls _ path?)
  intro outcome
  exact isNested_returned _

theorem isNested_change (change : Change Key Memory) (h : change.IsPlain)
    (answer : Host Key Memory -> α) :
    (look fun host => (tell [change]).andThen fun _ => returned (answer host)).IsNested := by
  apply isNested_look
  intro host
  apply (isNested_returned (answer host)).after
  intro other hmem
  rw [List.mem_singleton.mp hmem]
  exact h

theorem isNested_perform (depth : Nat) (call : Call Key) :
    (perform routines depth call).IsNested := by
  induction depth generalizing call with
  | zero =>
      cases call with
      | register priority name key =>
          exact isNested_change (.register priority (.action name key)) trivial _
      | unregister id => exact isNested_change (.unregister id) trivial _
      | enqueue request => exact isNested_tell (by simp [Change.IsPlain])
      | editPolicy handle edit => exact isNested_tell (by simp [Change.IsPlain])
      | load source => exact isNested_ended .exhausted
      | announce path? => exact isNested_ended .exhausted
      | runPending => exact isNested_ended .exhausted
      | compile engine path? => exact isNested_ended .exhausted
  | succ depth ih =>
      cases call with
      | register priority name key =>
          exact isNested_change (.register priority (.action name key)) trivial _
      | unregister id => exact isNested_change (.unregister id) trivial _
      | enqueue request => exact isNested_tell (by simp [Change.IsPlain])
      | editPolicy handle edit => exact isNested_tell (by simp [Change.IsPlain])
      | load source => exact isNested_load routines ih source
      | announce path? => exact isNested_announce routines ih path?
      | runPending => exact isNested_runPending routines ih
      | compile engine path? => exact isNested_compile routines ih engine path?

end Account

/-- The entries of an operation: a nested account, or one that ends with a sweep, in
whose span files are given to an engine. -/
inductive Performed :
    Scope -> Host Key Memory -> List (Entry Key Memory) -> Prop where
  | nested {scope : Scope} {host : Host Key Memory} {entries : List (Entry Key Memory)}
      (h : Nested scope host entries) : Performed scope host entries
  | swept {scope : Scope} {host : Host Key Memory} {start entries : List (Entry Key Memory)}
      {span : OpenSpan} (before : Nested scope host start)
      (next : span.IsNext (host.replay start))
      (inner : Nested (scope.opened span) ((host.replay start).enterSpan span.logger)
        entries) :
      Performed scope host
        (start ++ (⟨scope, .enter span⟩ :: entries ++ [⟨scope, .leave span⟩]))

namespace Account

variable (routines : Routines Key Memory)
variable {accounts : (call : Call Key) -> Account Key Memory call.Answer}

theorem entries_andThen_of_silent (account : Account Key Memory α)
    {next : α -> Account Key Memory β}
    (hnext : forall a scope host, (next a scope host).2 = []) (scope : Scope)
    (host : Host Key Memory) :
    ((account.andThen next) scope host).2 = (account scope host).2 := by
  unfold andThen
  rcases account scope host with ⟨ending, entries⟩
  cases ending with
  | returned a =>
      simp only [hnext]
      exact List.append_nil entries
  | panicked panic => rfl
  | exhausted => rfl

/-- The entries of a sweep stand between those that open and close its span. -/
theorem entries_sweep (index : Nat) (scope : Scope) (host : Host Key Memory) :
    (sweep routines accounts index scope host).2 =
      (inSpan (.sweeping index) (host.interceptor index).logger
        (sweepBody routines accounts (host.interceptor index).logger
          (host.interceptor index).engine host.history) scope host).2 := by
  unfold sweep look
  exact entries_andThen_of_silent _ (fun _ _ _ => rfl) scope host

def installing (index : Nat) (host : Host Key Memory) : List (Change Key Memory) :=
  [.register Priority.reserved (.hook (host.interceptor index).engine),
    .setActivation index (.active host.pipeline.nextId),
    .log (host.interceptor index).logger .info Interceptor.target "interception enabled"]

theorem entries_enable_of_inactive {index : Nat} {host : Host Key Memory}
    (h : (host.interceptor index).activation.isActive = false) (scope : Scope) :
    (enable routines accounts index scope host).2 =
      (installing index host).map (⟨scope, ·⟩) ++
        (sweep routines accounts index scope
          (host.replay ((installing index host).map (⟨scope, ·⟩)))).2 := by
  unfold enable look
  simp only [h, Bool.false_eq_true, if_false]
  show _ ++ _ = _
  exact congrArg (_ ++ ·) (entries_andThen_of_silent _ (fun _ _ _ => rfl) scope _)

theorem performed_enable (hcalls : forall call, (accounts call).IsNested) (index : Nat)
    (scope : Scope) (host : Host Key Memory) :
    Performed scope host (enable routines accounts index scope host).2 := by
  cases hactive : (host.interceptor index).activation.isActive with
  | true =>
      apply Performed.nested
      unfold enable look
      simp only [hactive, if_true]
      exact (isNested_returned none).after (by simp [Change.IsPlain]) scope host
  | false =>
      rw [entries_enable_of_inactive routines hactive, entries_sweep]
      apply Performed.swept
      · apply nested_map
        simp [installing, Change.IsPlain]
      · rfl
      · exact isNested_sweepBody routines hcalls _ _ _ _ _

theorem performed_operation (depth : Nat) (operation : Operation Key) (scope : Scope)
    (host : Host Key Memory) :
    Performed scope host (operation.account routines depth scope host).2 := by
  cases operation with
  | call c => exact Performed.nested (isNested_perform routines (depth + 1) c scope host)
  | enable index =>
      exact performed_enable routines (isNested_perform routines depth) index scope host
  | disable index => exact Performed.nested (isNested_disable index scope host)
  | drop index =>
      apply Performed.nested
      exact isNested_andThen (isNested_disable index) (fun _ => isNested_returned ())
        scope host
  | handle index path? =>
      apply Performed.nested
      exact isNested_handle routines (isNested_perform routines depth) index path? scope host
  | editSuffixes edit =>
      apply Performed.nested
      apply isNested_tell
      simp [Change.IsPlain]

end Account
/-!
# What follows from the nesting
-/

/-- Something holds of each entry, with the state that it is made in. -/
def Host.Throughout (P : Host Key Memory -> Entry Key Memory -> Prop) :
    Host Key Memory -> List (Entry Key Memory) -> Prop
  | _, [] => True
  | host, entry :: rest => P host entry ∧ Throughout P (entry.change.apply host) rest

theorem Host.throughout_append {P : Host Key Memory -> Entry Key Memory -> Prop}
    {host : Host Key Memory} {entries more : List (Entry Key Memory)} :
    host.Throughout P (entries ++ more) <->
      host.Throughout P entries ∧ (host.replay entries).Throughout P more := by
  induction entries generalizing host with
  | nil => exact (iff_of_eq (true_and _)).symm
  | cons entry rest ih =>
      simp only [List.cons_append, Throughout, ih, and_assoc]
      exact Iff.rfl

/-- A request is taken where it stands first, and a span is opened with the next
number. -/
def Entry.Fits (host : Host Key Memory) (entry : Entry Key Memory) : Prop :=
  match entry.change with
  | .take request => host.queue.head? = some request
  | .enter span => span.IsNext host
  | _ => True

theorem Change.IsPlain.fits {change : Change Key Memory} (h : change.IsPlain)
    (scope : Scope) (host : Host Key Memory) : Entry.Fits host ⟨scope, change⟩ := by
  cases change with
  | enter span => cases h
  | leave span => cases h
  | take request => cases h
  | _ => trivial

theorem Host.throughout_fits_span {scope : Scope} {host : Host Key Memory}
    {span : OpenSpan} {entries : List (Entry Key Memory)} (hnext : span.IsNext host)
    (hinner : (host.enterSpan span.logger).Throughout Entry.Fits entries) :
    host.Throughout Entry.Fits
      (⟨scope, .enter span⟩ :: entries ++ [⟨scope, .leave span⟩]) := by
  refine ⟨hnext, ?_⟩
  exact throughout_append.mpr ⟨hinner, trivial, trivial⟩

theorem Nested.fits {scope : Scope} {host : Host Key Memory}
    {entries : List (Entry Key Memory)} (h : Nested scope host entries) :
    host.Throughout Entry.Fits entries := by
  induction h with
  | nil => trivial
  | plain h => exact ⟨h.fits _ _, trivial⟩
  | take h => exact ⟨h, trivial⟩
  | append first later ihfirst ihlater => exact Host.throughout_append.mpr ⟨ihfirst, ihlater⟩
  | routine inner ih => exact ih
  | span next inner ih => exact Host.throughout_fits_span next ih

theorem Performed.fits {scope : Scope} {host : Host Key Memory}
    {entries : List (Entry Key Memory)} (h : Performed scope host entries) :
    host.Throughout Entry.Fits entries := by
  cases h with
  | nested h => exact h.fits
  | swept before next inner =>
      apply Host.throughout_append.mpr
      exact ⟨before.fits, Host.throughout_fits_span next inner.fits⟩

theorem Host.throughout_told {P : Host Key Memory -> Entry Key Memory -> Prop}
    {routines : Routines Key Memory} {depth : Nat}
    (h : forall (operation : Operation Key) (host : Host Key Memory),
      host.Throughout P (operation.account routines depth {} host).2)
    (operations : List (Operation Key)) (host : Host Key Memory) :
    host.Throughout P (told routines depth operations host) := by
  induction operations generalizing host with
  | nil => trivial
  | cons operation rest ih => exact throughout_append.mpr ⟨h operation host, ih _⟩

namespace Scope

/-- What is done in the inner scope is done within the outer one, and if it is done
by no routine that was called there, right in it. -/
structure Holds (outer inner : Scope) : Prop where
  routines : outer.routines ≤ inner.routines
  spans : outer.spans <:+ inner.spans
  same : inner.routines = outer.routines -> inner = outer

variable {outer inner : Scope}

theorem holds_refl (scope : Scope) : scope.Holds scope where
  routines := Nat.le_refl _
  spans := List.suffix_refl _
  same _ := rfl

theorem Holds.of_deeper (h : outer.deeper.Holds inner) : outer.Holds inner where
  routines := Nat.le_of_succ_le h.routines
  spans := h.spans
  same hsame := absurd h.routines (by rw [hsame]; exact Nat.not_succ_le_self _)

theorem Holds.of_deeper_opened {span : OpenSpan}
    (h : (outer.opened span).deeper.Holds inner) : outer.Holds inner where
  routines := Nat.le_of_succ_le h.routines
  spans := (List.suffix_cons _ _).trans h.spans
  same hsame := absurd h.routines (by rw [hsame]; exact Nat.not_succ_le_self _)

end Scope

theorem Nested.holds {scope : Scope} {host : Host Key Memory}
    {entries : List (Entry Key Memory)} (h : Nested scope host entries)
    {entry : Entry Key Memory} (hentry : entry ∈ entries) : scope.Holds entry.scope := by
  induction h with
  | nil => cases hentry
  | plain h =>
      rw [List.mem_singleton.mp hentry]
      exact Scope.holds_refl _
  | take h =>
      rw [List.mem_singleton.mp hentry]
      exact Scope.holds_refl _
  | append first later ihfirst ihlater =>
      rcases List.mem_append.mp hentry with hfirst | hlater
      · exact ihfirst hfirst
      · exact ihlater hlater
  | routine inner ih => exact (ih hentry).of_deeper
  | span next inner ih =>
      rcases List.mem_append.mp hentry with hstart | hend
      · rcases List.mem_cons.mp hstart with henter | hinner
        · rw [henter]
          exact Scope.holds_refl _
        · exact (ih hinner).of_deeper_opened
      · rw [List.mem_singleton.mp hend]
        exact Scope.holds_refl _

end CompileOnLoad
