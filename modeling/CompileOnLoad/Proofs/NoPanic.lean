import CompileOnLoad.Proofs.OwnChanges

/-!
# Routines that do not panic

A compiler that panics is caught by the engine that runs it.  Actions and the linker are
not caught, and what they break off breaks off whatever has called them.  If none of these
panics, then nothing does that a host can be asked for: it returns, unless calls are nested
too deeply.
-/

namespace CompileOnLoad

variable {Key Memory α β : Type}

def Script.NeverPanics : Script Key Memory α -> Prop
  | .done _ => True
  | .panic _ => False
  | .consult next => forall memory, (next memory).NeverPanics
  | .store _ next => next.NeverPanics
  | .call _ next => forall answer, (next answer).NeverPanics

structure Routines.NeverPanic (routines : Routines Key Memory) : Prop where
  observe : forall key path?, (routines.observe key path?).NeverPanics
  link : forall artifact, (routines.link artifact).NeverPanics

namespace Account

def NeverPanics (account : Account Key Memory α) : Prop :=
  forall scope host panic, (account scope host).1 ≠ .panicked panic

theorem neverPanics_returned (a : α) : (returned a : Account Key Memory α).NeverPanics := by
  intro scope host panic h
  cases h

theorem neverPanics_exhausted : (ended .exhausted : Account Key Memory α).NeverPanics := by
  intro scope host panic h
  cases h

theorem neverPanics_tell (changes : List (Change Key Memory)) :
    (tell changes).NeverPanics := by
  intro scope host panic h
  cases h

theorem neverPanics_inSpan (work : Work) (logger : Nat) (account : Account Key Memory α) :
    (account.inSpan work logger).NeverPanics := by
  intro scope host panic h
  cases h

theorem neverPanics_look {next : Host Key Memory -> Account Key Memory α}
    (h : forall host, (next host).NeverPanics) : (look next).NeverPanics := by
  intro scope host
  exact h host scope host

theorem neverPanics_byRoutine {account : Account Key Memory α} (h : account.NeverPanics) :
    account.byRoutine.NeverPanics := by
  intro scope
  exact h scope.deeper

theorem neverPanics_andThen {account : Account Key Memory α}
    {next : α -> Account Key Memory β} (haccount : account.NeverPanics)
    (hnext : forall a, (next a).NeverPanics) : (account.andThen next).NeverPanics := by
  intro scope host panic
  have hfirst := haccount scope host panic
  rcases hrun : account scope host with ⟨ending, entries⟩
  rw [hrun] at hfirst
  cases ending with
  | returned a =>
      rw [andThen_of_returned hrun]
      exact hnext a scope (host.replay entries) panic
  | panicked raised =>
      rw [andThen_of_panicked hrun]
      intro h
      cases h
      exact hfirst rfl
  | exhausted =>
      rw [andThen_of_exhausted hrun]
      intro h
      cases h

theorem NeverPanics.after {account : Account Key Memory α} (h : account.NeverPanics)
    (changes : List (Change Key Memory)) :
    ((tell changes).andThen fun _ => account).NeverPanics :=
  neverPanics_andThen (neverPanics_tell changes) fun _ => h

variable {accounts : (call : Call Key) -> Account Key Memory call.Answer}

theorem neverPanics_script (hcalls : forall call, (accounts call).NeverPanics)
    {script : Script Key Memory α} (h : script.NeverPanics) :
    (Account.script accounts script).NeverPanics := by
  induction script with
  | done a => exact neverPanics_returned a
  | panic p => exact h.elim
  | consult next ih => exact neverPanics_look fun host => ih host.memory (h host.memory)
  | store memory next ih => exact (ih h).after [.store memory]
  | call c next ih =>
      exact neverPanics_andThen (hcalls c) fun answer => ih answer (h answer)

/-!
# What engines do
-/

theorem neverPanics_settle (index : Nat) (source : Path)
    (ending : Ending (Except CompileFailure Path)) :
    (settle index source ending : Account Key Memory Outcome).NeverPanics := by
  have hfail (failure : CompileFailure) :
      (fail index source failure : Account Key Memory Outcome).NeverPanics :=
    neverPanics_look fun host => (neverPanics_returned _).after _
  have hsucceed (artifact : Path) :
      (succeed index source artifact : Account Key Memory Outcome).NeverPanics :=
    neverPanics_look fun host => (neverPanics_returned _).after _
  cases ending with
  | returned result =>
      cases result with
      | ok artifact => exact hsucceed artifact
      | error failure => exact hfail failure
  | panicked panic => exact hfail _
  | exhausted => exact neverPanics_exhausted

variable (routines : Routines Key Memory)

theorem neverPanics_compile (index : Nat) (path? : Option Path) :
    (compile routines accounts index path?).NeverPanics := by
  apply neverPanics_look
  intro host
  apply NeverPanics.after
  split
  · apply NeverPanics.after
    apply neverPanics_look
    intro host
    exact neverPanics_andThen (neverPanics_inSpan _ _ _) (neverPanics_settle index _)
  · exact neverPanics_look fun host => (neverPanics_returned _).after _

/-!
# What hosts do
-/

variable {routines}

theorem neverPanics_visit (h : routines.NeverPanic)
    (hcalls : forall call, (accounts call).NeverPanics) (path? : Option Path)
    (observer : Observer Key) : (visit routines accounts path? observer).NeverPanics := by
  cases observer with
  | hook engine =>
      exact neverPanics_andThen (neverPanics_compile routines engine path?) fun outcome =>
        neverPanics_returned _
  | action name key =>
      exact neverPanics_byRoutine (neverPanics_script hcalls (h.observe key path?))

theorem neverPanics_announce (h : routines.NeverPanic)
    (hcalls : forall call, (accounts call).NeverPanics) (path? : Option Path) :
    (announce routines accounts path?).NeverPanics := by
  apply neverPanics_look
  intro host
  apply NeverPanics.after
  induction host.pipeline.observers with
  | nil => exact neverPanics_returned _
  | cons observer rest ih =>
      apply NeverPanics.after
      apply neverPanics_andThen (neverPanics_visit h hcalls path? observer)
      intro disposition
      apply neverPanics_look
      intro host
      apply NeverPanics.after
      cases disposition with
      | handled => exact neverPanics_returned _
      | passThrough => exact neverPanics_andThen ih fun report => neverPanics_returned _

theorem neverPanics_execute (h : routines.NeverPanic)
    (hcalls : forall call, (accounts call).NeverPanics) (artifact : Path) :
    (execute routines accounts artifact).NeverPanics := by
  apply neverPanics_andThen
    (neverPanics_byRoutine (neverPanics_script hcalls (h.link artifact)))
  intro linked
  apply NeverPanics.after
  apply neverPanics_look
  intro host
  cases linked with
  | ok answer =>
      apply NeverPanics.after
      exact neverPanics_andThen (neverPanics_announce h hcalls _) fun _ =>
        neverPanics_returned _
  | error failure => exact (neverPanics_returned _).after _

theorem neverPanics_runPending (h : routines.NeverPanic)
    (hcalls : forall call, (accounts call).NeverPanics) :
    (runPending routines accounts).NeverPanics := by
  apply neverPanics_look
  intro host
  induction host.queue.length with
  | zero => exact neverPanics_returned _
  | succ n ih =>
      apply neverPanics_look
      intro host
      split
      · exact neverPanics_returned _
      · apply NeverPanics.after
        apply neverPanics_andThen (neverPanics_execute h hcalls _)
        intro result
        exact neverPanics_andThen ih fun report => neverPanics_returned _

theorem neverPanics_perform (h : routines.NeverPanic) (depth : Nat) (call : Call Key) :
    (perform routines depth call).NeverPanics := by
  induction depth generalizing call with
  | zero =>
      cases call with
      | register priority name key =>
          exact neverPanics_look fun host => (neverPanics_returned _).after _
      | unregister id => exact neverPanics_look fun host => (neverPanics_returned _).after _
      | enqueue request => exact neverPanics_tell _
      | editPolicy handle edit => exact neverPanics_tell _
      | load source => exact neverPanics_exhausted
      | announce path? => exact neverPanics_exhausted
      | runPending => exact neverPanics_exhausted
      | compile engine path? => exact neverPanics_exhausted
  | succ depth ih =>
      cases call with
      | register priority name key =>
          exact neverPanics_look fun host => (neverPanics_returned _).after _
      | unregister id => exact neverPanics_look fun host => (neverPanics_returned _).after _
      | enqueue request => exact neverPanics_tell _
      | editPolicy handle edit => exact neverPanics_tell _
      | load source => exact (neverPanics_announce h ih _).after _
      | announce path? => exact neverPanics_announce h ih path?
      | runPending => exact neverPanics_runPending h ih
      | compile engine path? => exact neverPanics_compile routines engine path?

end Account
end CompileOnLoad
