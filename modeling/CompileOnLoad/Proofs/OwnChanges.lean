import CompileOnLoad.Proofs.Nesting

/-!
# Own changes

What is told in a scope is done by the host itself or by routines that it calls
there, which work deeper.  Of the changes of some kind, those that the host makes
itself are its own.  Visits alone make none of the kinds that are looked at: no
request is taken in them, and no further observer is told of a load.
-/

namespace CompileOnLoad

variable {Key Memory α β : Type}
variable (keep : Change Key Memory -> Bool)

/-- The changes of a kind, without those of routines that are called in the scope. -/
def ownChanges (scope : Scope) (entries : List (Entry Key Memory)) :
    List (Change Key Memory) :=
  (entries.filter fun entry =>
    entry.scope.routines = scope.routines && keep entry.change).map (·.change)

theorem ownChanges_append (scope : Scope) (entries more : List (Entry Key Memory)) :
    ownChanges keep scope (entries ++ more) =
      ownChanges keep scope entries ++ ownChanges keep scope more := by
  unfold ownChanges
  rw [List.filter_append, List.map_append]

theorem ownChanges_map (scope : Scope) (changes : List (Change Key Memory)) :
    ownChanges keep scope (changes.map (⟨scope, ·⟩)) = changes.filter keep := by
  induction changes with
  | nil => rfl
  | cons change rest ih =>
      have hsplit := ownChanges_append keep scope [⟨scope, change⟩] (rest.map (⟨scope, ·⟩))
      rw [ih] at hsplit
      rw [List.map_cons]
      refine hsplit.trans ?_
      unfold ownChanges
      cases hkept : keep change with
      | true => simp [hkept]
      | false => simp [hkept]

theorem ownChanges_of_deeper {scope inner : Scope} {host : Host Key Memory}
    {entries : List (Entry Key Memory)} (h : Nested inner.deeper host entries)
    (hinner : inner.routines = scope.routines) : ownChanges keep scope entries = [] := by
  have hnone : (entries.filter fun entry =>
      entry.scope.routines = scope.routines && keep entry.change) = [] := by
    apply List.filter_eq_nil_iff.mpr
    intro entry hmem
    have hdeeper := (h.holds hmem).routines
    have hmore : scope.routines < entry.scope.routines := by
      rw [← hinner]
      exact hdeeper
    have hne : entry.scope.routines ≠ scope.routines := Nat.ne_of_gt hmore
    simp [hne]
  unfold ownChanges
  rw [hnone]
  rfl

namespace Account

theorem andThen_of_returned {account : Account Key Memory α}
    {next : α -> Account Key Memory β} {scope : Scope} {host : Host Key Memory} {a : α}
    {entries : List (Entry Key Memory)}
    (h : account scope host = (.returned a, entries)) :
    (account.andThen next) scope host =
      ((next a scope (host.replay entries)).1,
        entries ++ (next a scope (host.replay entries)).2) := by
  unfold andThen
  rw [h]

theorem andThen_of_panicked {account : Account Key Memory α}
    {next : α -> Account Key Memory β} {scope : Scope} {host : Host Key Memory}
    {panic : Panic} {entries : List (Entry Key Memory)}
    (h : account scope host = (.panicked panic, entries)) :
    (account.andThen next) scope host = (.panicked panic, entries) := by
  unfold andThen
  rw [h]

theorem andThen_of_exhausted {account : Account Key Memory α}
    {next : α -> Account Key Memory β} {scope : Scope} {host : Host Key Memory}
    {entries : List (Entry Key Memory)}
    (h : account scope host = (.exhausted, entries)) :
    (account.andThen next) scope host = (.exhausted, entries) := by
  unfold andThen
  rw [h]

theorem andThen_map (account : Account Key Memory α) (f : α -> β) (scope : Scope)
    (host : Host Key Memory) :
    (account.andThen fun a => returned (f a)) scope host =
      ((account scope host).1.map f, (account scope host).2) := by
  rcases hrun : account scope host with ⟨ending, entries⟩
  cases ending with
  | returned a =>
      rw [andThen_of_returned hrun]
      exact congrArg (_, ·) (List.append_nil entries)
  | panicked panic => exact andThen_of_panicked hrun
  | exhausted => exact andThen_of_exhausted hrun

theorem ending_tell_andThen (changes : List (Change Key Memory))
    (next : Unit -> Account Key Memory α) (scope : Scope) (host : Host Key Memory) :
    (((tell changes).andThen next) scope host).1 =
      (next () scope (host.replay (changes.map (⟨scope, ·⟩)))).1 :=
  rfl

theorem ownChanges_tell_andThen (changes : List (Change Key Memory))
    (next : Unit -> Account Key Memory α) (scope : Scope) (host : Host Key Memory) :
    ownChanges keep scope (((tell changes).andThen next) scope host).2 =
      changes.filter keep ++
        ownChanges keep scope (next () scope (host.replay (changes.map (⟨scope, ·⟩)))).2 := by
  refine (ownChanges_append keep scope _ _).trans ?_
  exact congrArg (· ++ _) (ownChanges_map keep scope changes)

def IsIdle (account : Account Key Memory α) : Prop :=
  forall scope host, ownChanges keep scope (account scope host).2 = []

theorem isIdle_ended (ending : Ending α) :
    (ended ending : Account Key Memory α).IsIdle keep := by
  intro scope host
  rfl

theorem isIdle_tell {changes : List (Change Key Memory)}
    (h : forall change, change ∈ changes -> keep change = false) :
    (tell changes).IsIdle keep := by
  intro scope host
  refine (ownChanges_map keep scope changes).trans ?_
  apply List.filter_eq_nil_iff.mpr
  intro change hmem
  rw [h change hmem]
  exact Bool.false_ne_true

theorem isIdle_byRoutine {account : Account Key Memory α} (h : account.IsNested) :
    account.byRoutine.IsIdle keep := by
  intro scope host
  exact ownChanges_of_deeper keep (h scope.deeper host) rfl

variable {keep}

theorem isIdle_andThen {account : Account Key Memory α}
    {next : α -> Account Key Memory β} (haccount : account.IsIdle keep)
    (hnext : forall a, (next a).IsIdle keep) : (account.andThen next).IsIdle keep := by
  intro scope host
  have hfirst := haccount scope host
  rcases hrun : account scope host with ⟨ending, entries⟩
  rw [hrun] at hfirst
  cases ending with
  | returned a =>
      rw [andThen_of_returned hrun, ownChanges_append, hfirst, hnext a]
      rfl
  | panicked panic =>
      rw [andThen_of_panicked hrun]
      exact hfirst
  | exhausted =>
      rw [andThen_of_exhausted hrun]
      exact hfirst

theorem isIdle_look {next : Host Key Memory -> Account Key Memory α}
    (h : forall host, (next host).IsIdle keep) : (look next).IsIdle keep := by
  intro scope host
  exact h host scope host

theorem isIdle_inSpan_byRoutine (henter : forall span, keep (.enter span) = false)
    (hleave : forall span, keep (.leave span) = false)
    {account : Account Key Memory α} (h : account.IsNested) (work : Work) (logger : Nat) :
    (account.byRoutine.inSpan work logger).IsIdle keep := by
  intro scope host
  simp only [inSpan, byRoutine]
  generalize (⟨work, logger, _⟩ : OpenSpan) = span
  have hinner : ownChanges keep scope (account (scope.opened span).deeper
      (host.enterSpan logger)).2 = [] :=
    ownChanges_of_deeper keep (h (scope.opened span).deeper (host.enterSpan logger)) rfl
  rw [List.cons_append, ← List.singleton_append, ownChanges_append, ownChanges_append,
    hinner]
  simp [ownChanges, henter, hleave]

end Account

structure Change.IsBesidesVisits (keep : Change Key Memory -> Bool) : Prop where
  visit : forall change, change.IsOfVisit -> keep change = false
  enter : forall span, keep (.enter span) = false
  leave : forall span, keep (.leave span) = false

namespace Account

variable {keep}

theorem holdsOfParts_isIdle (routines : Routines Key Memory)
    (hkeep : Change.IsBesidesVisits keep)
    {accounts : (call : Call Key) -> Account Key Memory call.Answer}
    (hcalls : forall call, (accounts call).IsNested) :
    HoldsOfParts routines accounts (IsIdle keep) where
  ended := isIdle_ended keep
  tell h := isIdle_tell keep fun change hmem => hkeep.visit change (h change hmem)
  andThen := isIdle_andThen
  look := isIdle_look
  observing _ _ := isIdle_byRoutine keep (isNested_script hcalls _)
  compiling _ _ :=
    isIdle_inSpan_byRoutine hkeep.enter hkeep.leave (isNested_script hcalls _)

end Account
end CompileOnLoad
