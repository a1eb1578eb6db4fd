import CompileOnLoad.Proofs.Watching

/-!
# Runs

A run is what comes of a list of operations that are done with a host, one after
the other: calls of the host, and the switching of its interceptors.  Runs are
watched, and each step of a run keeps the state before it, how it ended and the
state after it.
-/

namespace CompileOnLoad

variable {Key Memory : Type}

inductive Operation (Key : Type) where
  | call (call : Call Key)
  | enable (interceptor : Nat)
  | disable (interceptor : Nat)
  /-- An interceptor goes out of use. -/
  | drop (interceptor : Nat)
  | handle (interceptor : Nat) (path? : Option Path)
  | editSuffixes (edit : List String -> List String)

namespace Operation

def Answer : Operation Key -> Type
  | call c => c.Answer
  | enable _ => Option SweepReport
  | disable _ => Bool
  | drop _ => Unit
  | handle _ _ => Disposition
  | editSuffixes _ => Unit

/-- Carries out an operation, with calls of routines nested to at most the given
depth. -/
def act (routines : Routines Key Memory) (depth : Nat) :
    (operation : Operation Key) -> Act Key Memory operation.Answer
  | call c => Host.perform routines (depth + 1) c
  | enable index => Interceptor.enable routines (Host.perform routines depth) index
  | disable index => Act.ofPure (Interceptor.disable index)
  | drop index => Act.ofPure fun host => ((), (Interceptor.disable index host).2)
  | handle index path? =>
      Interceptor.handle routines (Host.perform routines depth) index path?
  | editSuffixes edit =>
      Act.ofPure fun host => ((), { host with suffixes := edit host.suffixes })

def watch (routines : Routines Key Memory) (depth : Nat) :
    (operation : Operation Key) -> Act Key (Watched Key Memory) operation.Answer
  | call c => c.watch (Host.perform routines.watched (depth + 1))
  | enable index => act routines.watched depth (enable index)
  | disable index => act routines.watched depth (disable index)
  | drop index => act routines.watched depth (drop index)
  | handle index path? => act routines.watched depth (handle index path?)
  | editSuffixes edit => act routines.watched depth (editSuffixes edit)

/-- A call that gives a watcher nothing to write down is watched as it is. -/
theorem watch_call_of_silent (routines : Routines Key Memory) (depth : Nat)
    {c : Call Key} (hsilent : forall answer, c.sightings answer = []) :
    (call c).watch routines depth = Host.perform routines.watched (depth + 1) c := by
  funext host
  simp only [watch, Call.watch, Act.andThen]
  cases hcall : Host.perform routines.watched (depth + 1) c host with
  | mk ending after =>
      cases ending with
      | returned answer =>
          simp only [hsilent, Host.see_nil]
          rfl
      | panicked p => rfl
      | exhausted => rfl

/-- The priority that a registration asks for is one that a host can ask for. -/
def IsLawful : Operation Key -> Prop
  | call (.register priority _ _) => exists value, priority = Priority.ofValue value
  | _ => True

def interceptor? : Operation Key -> Option Nat
  | enable index => some index
  | disable index => some index
  | drop index => some index
  | handle index _ => some index
  | _ => none

end Operation

structure Step (Key Memory : Type) where
  operation : Operation Key
  before : Host Key (Watched Key Memory)
  ending : Ending operation.Answer
  after : Host Key (Watched Key Memory)

def Operation.step (routines : Routines Key Memory) (depth : Nat)
    (operation : Operation Key) (host : Host Key (Watched Key Memory)) :
    Step Key Memory :=
  ⟨operation, host, (operation.watch routines depth host).1,
    (operation.watch routines depth host).2⟩

def Step.sightings (step : Step Key Memory) : List (Sighting Key) :=
  step.after.memory.seen.drop step.before.memory.seen.length

theorem Step.sightings_eq {step : Step Key Memory} {sightings : List (Sighting Key)}
    (h : step.after.memory.seen = step.before.memory.seen ++ sightings) :
    step.sightings = sightings := by
  unfold Step.sightings
  rw [h]
  exact List.drop_left

namespace Host

def after (routines : Routines Key Memory) (depth : Nat) :
    List (Operation Key) -> Host Key (Watched Key Memory) ->
      Host Key (Watched Key Memory)
  | [], host => host
  | operation :: rest, host =>
      after routines depth rest (operation.watch routines depth host).2

def steps (routines : Routines Key Memory) (depth : Nat) :
    List (Operation Key) -> Host Key (Watched Key Memory) -> List (Step Key Memory)
  | [], _ => []
  | operation :: rest, host =>
      operation.step routines depth host ::
        steps routines depth rest (operation.step routines depth host).after

/-- The host is new: nothing has been done with it, nor been seen of it. -/
structure IsFresh (host : Host Key (Watched Key Memory)) : Prop where
  seen : host.memory.seen = []
  history : host.history = []
  queue : host.queue = []
  pipeline : host.pipeline = {}
  inactive : forall interceptor, interceptor ∈ host.interceptors ->
    interceptor.activation = .inactive

theorem IsFresh.activation_eq {host : Host Key (Watched Key Memory)}
    (h : host.IsFresh) (index : Nat) :
    (host.interceptor index).activation = .inactive := by
  unfold Host.interceptor
  rw [List.getD_eq_getElem?_getD]
  cases hfound : host.interceptors[index]? with
  | none => rfl
  | some interceptor => exact h.inactive _ (List.mem_of_getElem? hfound)

variable {routines : Routines Key Memory} {depth : Nat}

theorem after_append (first rest : List (Operation Key))
    (host : Host Key (Watched Key Memory)) :
    after routines depth (first ++ rest) host =
      after routines depth rest (after routines depth first host) := by
  induction first generalizing host with
  | nil => rfl
  | cons operation first ih => exact ih _

/-- A new host with one engine, one interceptor for it, and one policy. -/
def single (policy : Policy) (suffixes : List String) : Host Nat (Watched Nat Unit) where
  context := { policies := [policy] }
  suffixes := suffixes
  engines := [⟨0, 0, {}⟩]
  interceptors := [⟨0, 0, .inactive⟩]
  memory := ⟨(), []⟩

theorem isFresh_single (policy : Policy) (suffixes : List String) :
    (single policy suffixes).IsFresh where
  seen := rfl
  history := rfl
  queue := rfl
  pipeline := rfl
  inactive := by
    intro interceptor hmem
    rw [List.mem_singleton.mp hmem]

end Host

/-- Every file compiles to itself, every artifact links, and every action lets
all loads pass. -/
def Routines.plain : Routines Nat Unit where
  compile _ source := .done (.ok source)
  link _ := .done (.ok ())
  observe _ _ := .done .passThrough

end CompileOnLoad
