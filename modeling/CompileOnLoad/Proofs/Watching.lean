import CompileOnLoad.Proofs.Correspondence

/-!
# Watched routines

What a host does shows in its state only in part: no field says which files a
compiler was given, or which observers were visited.  Watched routines do what
the routines do and also write down, in a memory that the routines cannot see,
what they are asked to do and how they change the list of observers.

Watching is harmless: a host with watched routines does what the host does
without a watcher.
-/

namespace CompileOnLoad

variable {Key Memory α β : Type}

inductive Sighting (Key : Type) where
  /-- A source file is given to the compiler for an engine. -/
  | compiling (engine : Nat) (source : Path)
  /-- An artifact has been linked. -/
  | linked (artifact : Path)
  /-- A load is announced to an action of the host. -/
  | visited (key : Key) (path? : Option Path)
  /-- The host has registered an action and got its number. -/
  | registered (id : Nat) (priority : Priority) (name : String) (key : Key)
  /-- The host has asked for a registration to be taken out. -/
  | unregistered (id : Nat)
  deriving DecidableEq, Repr

/-- The memory of routines, with what their watcher has written down. -/
structure Watched (Key Memory : Type) where
  memory : Memory
  seen : List (Sighting Key) := []
  deriving DecidableEq, Repr

def Watched.see (watched : Watched Key Memory) (sightings : List (Sighting Key)) :
    Watched Key Memory :=
  { watched with seen := watched.seen ++ sightings }

def Call.sightings : (call : Call Key) -> call.Answer -> List (Sighting Key)
  | register priority name key, id => [.registered id priority name key]
  | unregister id, _ => [.unregistered id]
  | _, _ => []

namespace Script

def note (sightings : List (Sighting Key))
    (next : Script Key (Watched Key Memory) α) :
    Script Key (Watched Key Memory) α :=
  consult fun watched => store (watched.see sightings) next

def watched : Script Key Memory α -> Script Key (Watched Key Memory) α
  | done a => done a
  | panic p => panic p
  | consult next => consult fun watched => (next watched.memory).watched
  | store memory next =>
      consult fun watched => store { watched with memory } next.watched
  | call c next =>
      call c fun answer => note (c.sightings answer) (next answer).watched

def noteLinked (artifact : Path) (result : Except LoadFailure Unit) :
    Script Key (Watched Key Memory) (Except LoadFailure Unit) :=
  match result with
  | .ok () => note [.linked artifact] (done (.ok ()))
  | .error failure => done (.error failure)

end Script

def Routines.watched (routines : Routines Key Memory) :
    Routines Key (Watched Key Memory) where
  compile engine source :=
    .note [.compiling engine source] (routines.compile engine source).watched
  link artifact := (routines.link artifact).watched.andThen (.noteLinked artifact)
  observe key path? :=
    .note [.visited key path?] (routines.observe key path?).watched

def Host.see (host : Host Key (Watched Key Memory))
    (sightings : List (Sighting Key)) : Host Key (Watched Key Memory) :=
  { host with memory := host.memory.see sightings }

def Call.watch (perform : Performer Key (Watched Key Memory)) (call : Call Key) :
    Act Key (Watched Key Memory) call.Answer :=
  (perform call).andThen fun answer host =>
    (.returned answer, host.see (call.sightings answer))

def Host.unwatched (host : Host Key (Watched Key Memory)) : Host Key Memory where
  context := host.context
  logger := host.logger
  suffixes := host.suffixes
  history := host.history
  queue := host.queue
  pipeline := host.pipeline
  engines := host.engines
  interceptors := host.interceptors
  memory := host.memory.memory

theorem Host.see_nil (host : Host Key (Watched Key Memory)) : host.see [] = host := by
  unfold Host.see Watched.see
  rw [List.append_nil]

namespace Script

theorem run_andThen (perform : Performer Key Memory) (script : Script Key Memory α)
    (rest : α -> Script Key Memory β) :
    (script.andThen rest).run perform =
      (script.run perform).andThen fun a => (rest a).run perform := by
  induction script with
  | done a => rfl
  | panic p => rfl
  | consult next ih =>
      funext host
      exact congrFun (ih host.memory) host
  | store memory next ih =>
      funext host
      exact congrFun ih { host with memory }
  | call c next ih =>
      funext host
      simp only [Script.andThen, run, Act.andThen]
      cases hcall : perform c host with
      | mk ending after =>
          cases ending with
          | returned answer => exact congrFun (ih answer) after
          | panicked p => rfl
          | exhausted => rfl

theorem run_watched_call (perform : Performer Key (Watched Key Memory)) (c : Call Key)
    (next : c.Answer -> Script Key Memory α) :
    (call c next).watched.run perform =
      (c.watch perform).andThen fun answer => (next answer).watched.run perform := by
  funext host
  simp only [watched, run, Call.watch, Act.andThen]
  rcases perform c host with ⟨ending, after⟩
  cases ending with
  | returned answer => rfl
  | panicked p => rfl
  | exhausted => rfl

end Script

/-!
# Watching is harmless
-/

def Host.Watches (host : Host Key (Watched Key Memory)) (host' : Host Key Memory) :
    Prop :=
  host.unwatched = host'

namespace Host

theorem watches_engineCorrespondence :
    EngineCorrespondence (@Watches Key Memory) where
  logger h := congrArg Host.logger h
  pipeline h := congrArg Host.pipeline h
  queue h := congrArg Host.queue h
  history h := congrArg Host.history h
  interceptors h := congrArg Host.interceptors h
  setQueue h queue := by
    cases h
    rfl
  remember h file := by
    cases h
    rfl
  log h logger level target message := by
    cases h
    rfl
  enterSpan h logger := by
    cases h
    rfl
  leaveSpan h logger := by
    cases h
    rfl
  engines h := congrArg Host.engines h
  suffixes h := congrArg Host.suffixes h
  policy h handle := congrArg (·.policy handle) h
  count h engine outcome := by
    cases h
    rfl

end Host

theorem Script.watched_corresponds
    {perform : Performer Key (Watched Key Memory)} {perform' : Performer Key Memory}
    (hcalls : forall call, Act.Corresponds Host.Watches (perform call) (perform' call))
    (script : Script Key Memory α) :
    Act.Corresponds Host.Watches (script.watched.run perform)
      (script.run perform') := by
  induction script with
  | done a => exact Act.corresponds_returned a
  | panic p =>
      intro host host' h
      exact ⟨rfl, h⟩
  | consult next ih =>
      intro host host' h
      cases h
      exact ih host.memory.memory host _ rfl
  | store memory next ih =>
      intro host host' h
      cases h
      exact ih _ _ rfl
  | call c next ih =>
      apply Act.corresponds_andThen (hcalls c)
      intro answer host host' h
      cases h
      exact ih answer (host.see (c.sightings answer)) _ rfl

theorem Routines.watched_corresponds
    {perform : Performer Key (Watched Key Memory)} {perform' : Performer Key Memory}
    (hcalls : forall call, Act.Corresponds Host.Watches (perform call) (perform' call))
    (routines : Routines Key Memory) :
    Host.ScriptsCorrespond Host.Watches routines.watched perform routines perform' where
  compile := by
    intro engine source host host' h
    cases h
    exact Script.watched_corresponds hcalls (routines.compile engine source)
      (host.see [.compiling engine source]) _ rfl
  link := by
    intro artifact
    unfold Routines.watched
    simp only [Script.run_andThen]
    intro host host' h
    cases h
    rcases Script.watched_corresponds hcalls (routines.link artifact) host _ rfl
      with ⟨hending, hafter⟩
    unfold Act.andThen
    revert hending hafter
    generalize Script.run perform _ _ = linked
    generalize Script.run perform' _ _ = linked'
    rcases linked with ⟨ending, after⟩
    rcases linked' with ⟨ending', after'⟩
    intro hending hafter
    cases hending
    cases ending with
    | returned result =>
        cases result with
        | ok _ => exact ⟨rfl, hafter⟩
        | error failure => exact ⟨rfl, hafter⟩
    | panicked p => exact ⟨rfl, hafter⟩
    | exhausted => exact ⟨rfl, hafter⟩
  observe := by
    intro key path? host host' h
    cases h
    exact Script.watched_corresponds hcalls (routines.observe key path?)
      (host.see [.visited key path?]) _ rfl

namespace Host

theorem calls_watched_of_nested {routines : Routines Key Memory} {depth : Nat}
    (hnested : CallsCorrespond Watches (perform routines.watched depth)
      (perform routines depth)) (call : Call Key) :
    Act.Corresponds Watches (perform routines.watched depth call)
      (perform routines depth call) := by
  cases call with
  | register priority name key =>
      rw [perform_register, perform_register]
      intro host host' h
      cases h
      exact ⟨rfl, rfl⟩
  | unregister id =>
      rw [perform_unregister, perform_unregister]
      intro host host' h
      cases h
      exact ⟨rfl, rfl⟩
  | enqueue request =>
      rw [perform_enqueue, perform_enqueue]
      intro host host' h
      cases h
      exact ⟨rfl, rfl⟩
  | editPolicy handle edit =>
      rw [perform_editPolicy, perform_editPolicy]
      intro host host' h
      cases h
      exact ⟨rfl, rfl⟩
  | load source => exact hnested.load source
  | announce path? => exact hnested.announce path?
  | runPending => exact hnested.runPending
  | compile engine path? => exact hnested.compile engine path?

theorem perform_watched (routines : Routines Key Memory) (depth : Nat)
    (call : Call Key) :
    Act.Corresponds Watches (perform routines.watched depth call)
      (perform routines depth call) := by
  apply calls_watched_of_nested
  apply watches_engineCorrespondence.callsCorrespond
  intro depth hnested
  exact routines.watched_corresponds (calls_watched_of_nested hnested)

end Host
end CompileOnLoad
