import CompileOnLoad.Proofs.OwnChanges
import CompileOnLoad.Proofs.QueueAccounting

/-!
# Rounds of the queue

A round takes no more requests than were waiting when it began, also if routines
put others into the queue, or take some away in rounds of their own.  What a round
does itself is told from what routines do in it by the scope: these work deeper.

A round that returns reports each request that it took, once, as loaded or as
failed, and has announced those that are loaded, once each.  A round that breaks
off was executing one request that it took; those before it are settled, and those
that it has not taken are where they were.
-/

namespace CompileOnLoad

variable {Key Memory α β : Type}

def Change.isQueueWork : Change Key Memory -> Bool
  | take _ => true
  | link _ _ => true
  | announce _ => true
  | _ => false

theorem Change.isBesidesVisits_isQueueWork :
    IsBesidesVisits (Change.isQueueWork : Change Key Memory -> Bool) where
  visit change h := by
    cases change with
    | take request => cases h
    | link artifact result => cases h
    | announce path? => cases h
    | _ => rfl
  enter _ := rfl
  leave _ := rfl

namespace Account

variable (routines : Routines Key Memory)
variable {accounts : (call : Call Key) -> Account Key Memory call.Answer}

theorem queueWork_announce (hcalls : forall call, (accounts call).IsNested)
    (path? : Option Path) (scope : Scope) (host : Host Key Memory) :
    ownChanges Change.isQueueWork scope (announce routines accounts path? scope host).2 =
      [.announce path?] := by
  have hvisited : IsIdle Change.isQueueWork
      (visitAll routines accounts path? host.pipeline.observers) := by
    apply (holdsOfParts_isIdle routines Change.isBesidesVisits_isQueueWork hcalls).visitAll
    intro observer
    exact isIdle_tell _ (by simp [Change.isQueueWork])
  unfold announce look
  rw [ownChanges_tell_andThen]
  exact congrArg (_ ++ ·) (hvisited scope _)

end Account

/-!
# Executions
-/

/-- Neither ending is a return, and they break off for the same reason. -/
def Ending.BreaksLike : Ending α -> Ending β -> Prop
  | panicked panic, panicked panic' => panic = panic'
  | exhausted, exhausted => True
  | _, _ => False

theorem Ending.BreaksLike.map {ending : Ending α} {f : β -> β} {ending' : Ending β}
    (h : ending.BreaksLike ending') : ending.BreaksLike (ending'.map f) := by
  cases ending' with
  | returned b => cases ending <;> cases h
  | panicked panic => exact h
  | exhausted => exact h

def linkWork (artifact : Path) (result : Except LoadFailure Unit) :
    List (Change Key Memory) :=
  .link artifact result ::
    match result with
    | .ok () => [.announce (some artifact)]
    | .error _ => []

/-- How the execution of a request for an artifact ends, and its queue work. -/
inductive ExecutionTold (artifact : Path) :
    Ending (Except LoadFailure Unit) -> List (Change Key Memory) -> Prop where
  | returned (result : Except LoadFailure Unit) :
      ExecutionTold artifact (.returned result) (linkWork artifact result)
  /-- The linker has broken off, or an observer. -/
  | brokenOff {ending : Ending (Except LoadFailure Unit)} {work : List (Change Key Memory)}
      (broken : ending.BreaksLike ending)
      (reached : work = [] ∨ work = linkWork artifact (.ok ())) :
      ExecutionTold artifact ending work

namespace Account

variable (routines : Routines Key Memory)
variable {accounts : (call : Call Key) -> Account Key Memory call.Answer}

theorem executionTold_announced (hcalls : forall call, (accounts call).IsNested)
    (artifact : Path) (scope : Scope) (host : Host Key Memory) :
    let announced : Account Key Memory (Except LoadFailure Unit) :=
      (announce routines accounts (some artifact)).andThen fun _ => returned (.ok ())
    ExecutionTold artifact (announced scope host).1
      (.link artifact (.ok ()) ::
        ownChanges Change.isQueueWork scope (announced scope host).2) := by
  intro announced
  have hwork := queueWork_announce routines hcalls (some artifact) scope host
  have hrun := andThen_map (announce routines accounts (some artifact))
    (fun _ => (Except.ok () : Except LoadFailure Unit)) scope host
  show ExecutionTold artifact (announced scope host).1 _
  rw [show announced scope host = _ from hrun, hwork]
  cases (announce routines accounts (some artifact) scope host).1 with
  | returned report => exact ExecutionTold.returned (.ok ())
  | panicked panic => exact ExecutionTold.brokenOff rfl (.inr rfl)
  | exhausted => exact ExecutionTold.brokenOff trivial (.inr rfl)

theorem executionTold_execute (hcalls : forall call, (accounts call).IsNested)
    (artifact : Path) (scope : Scope) (host : Host Key Memory) :
    ExecutionTold artifact (execute routines accounts artifact scope host).1
      (ownChanges Change.isQueueWork scope
        (execute routines accounts artifact scope host).2) := by
  have hlinker := isIdle_byRoutine Change.isQueueWork
    (isNested_script hcalls (routines.link artifact)) scope host
  unfold execute
  rcases hlink : (script accounts (routines.link artifact)).byRoutine scope host
    with ⟨ending, entries⟩
  rw [hlink] at hlinker
  cases ending with
  | panicked panic =>
      rw [andThen_of_panicked hlink]
      exact ExecutionTold.brokenOff rfl (.inl hlinker)
  | exhausted =>
      rw [andThen_of_exhausted hlink]
      exact ExecutionTold.brokenOff trivial (.inl hlinker)
  | returned linked =>
      rw [andThen_of_returned hlink]
      rw [ownChanges_append, hlinker, List.nil_append, ownChanges_tell_andThen]
      cases linked with
      | ok _ =>
          simp only [look, ownChanges_tell_andThen]
          exact executionTold_announced routines hcalls artifact scope _
      | error failure =>
          simp only [look, ownChanges_tell_andThen]
          exact ExecutionTold.returned (.error failure)

end Account

/-!
# Rounds
-/

structure Attempt where
  request : Request
  result : Except LoadFailure Unit

namespace Attempt

def work (attempt : Attempt) : List (Change Key Memory) :=
  .take attempt.request :: linkWork attempt.request.artifact attempt.result

def loaded? (attempt : Attempt) : Option Path :=
  match attempt.result with
  | .ok () => some attempt.request.artifact
  | .error _ => none

def failure? (attempt : Attempt) : Option LoadFailure :=
  match attempt.result with
  | .ok () => none
  | .error failure => some failure

end Attempt

def reportOf (attempts : List Attempt) : RunReport where
  loaded := attempts.filterMap Attempt.loaded?
  failed := attempts.filterMap Attempt.failure?

theorem reportOf_cons (attempt : Attempt) (attempts : List Attempt) :
    reportOf (attempt :: attempts) =
      RunReport.note attempt.request.artifact attempt.result (reportOf attempts) := by
  rcases attempt with ⟨request, result⟩
  cases result with
  | ok _ => rfl
  | error failure => rfl

/-- How a round ends that may take a number of requests, its queue work, and what it
leaves in the queue. -/
inductive RoundTold (execution : Path -> Act Key Memory (Except LoadFailure Unit))
    (limit : Nat) : Ending RunReport -> List (Change Key Memory) -> Queue -> Prop where
  | completed {left : Queue} (attempts : List Attempt) (within : attempts.length ≤ limit)
      (done : attempts.length = limit ∨ left = []) :
      RoundTold execution limit (.returned (reportOf attempts))
        (attempts.flatMap Attempt.work) left
  /-- The execution of the request that was taken last has broken off. -/
  | brokenOff {left : Queue} {ending : Ending RunReport} (attempts : List Attempt)
      (request : Request) (reached : List (Change Key Memory))
      (within : attempts.length < limit)
      (cause : exists host, (execution request.artifact host).1.BreaksLike ending)
      (linked : reached = [] ∨ reached = linkWork request.artifact (.ok ())) :
      RoundTold execution limit ending
        (attempts.flatMap Attempt.work ++ .take request :: reached) left

theorem RoundTold.cons {execution : Path -> Act Key Memory (Except LoadFailure Unit)}
    {limit : Nat} {ending : Ending RunReport} {work : List (Change Key Memory)}
    {left : Queue} (h : RoundTold execution limit ending work left) (attempt : Attempt) :
    RoundTold execution (limit + 1)
      (ending.map (RunReport.note attempt.request.artifact attempt.result))
      (attempt.work ++ work) left := by
  cases h with
  | completed attempts within done =>
      show RoundTold _ _ (.returned (RunReport.note _ _ (reportOf attempts))) _ _
      rw [← reportOf_cons, ← List.flatMap_cons]
      apply RoundTold.completed
      · exact Nat.succ_le_succ within
      · exact done.imp_left (congrArg Nat.succ)
  | brokenOff attempts request reached within cause linked =>
      rcases cause with ⟨host, hcause⟩
      rw [← List.append_assoc, ← List.flatMap_cons]
      apply RoundTold.brokenOff
      · exact Nat.succ_lt_succ within
      · exact ⟨host, hcause.map⟩
      · exact linked

namespace Account

variable (routines : Routines Key Memory)
variable {accounts : (call : Call Key) -> Account Key Memory call.Answer}
variable {acts : Performer Key Memory}

theorem roundTold_taken (hcalls : forall call, (accounts call).IsNested)
    (htells : forall call, (accounts call).Tells (acts call)) {n : Nat} {scope : Scope}
    (hrest : forall host, RoundTold (Host.execute routines acts) n
      (runRequests routines accounts n scope host).1
      (ownChanges Change.isQueueWork scope (runRequests routines accounts n scope host).2)
      (host.replay (runRequests routines accounts n scope host).2).queue)
    (request : Request) (host : Host Key Memory) :
    let taken : Account Key Memory RunReport :=
      (execute routines accounts request.artifact).andThen fun result =>
        (runRequests routines accounts n).andThen fun report =>
          returned (RunReport.note request.artifact result report)
    RoundTold (Host.execute routines acts) (n + 1) (taken scope host).1
      (.take request :: ownChanges Change.isQueueWork scope (taken scope host).2)
      (host.replay (taken scope host).2).queue := by
  intro taken
  have hexecuted := executionTold_execute routines hcalls request.artifact scope host
  have hreal := tells_execute routines htells request.artifact scope host
  rcases hrun : execute routines accounts request.artifact scope host
    with ⟨ending, entries⟩
  rw [hrun] at hexecuted hreal
  generalize hwork : ownChanges Change.isQueueWork scope entries = work at hexecuted
  have hbroken (ending : Ending RunReport)
      (h : (Host.execute routines acts request.artifact host).1.BreaksLike ending)
      (hlinked : work = [] ∨ work = linkWork request.artifact (.ok ())) :
      RoundTold (Host.execute routines acts) (n + 1) ending (.take request :: work)
        (host.replay entries).queue :=
    RoundTold.brokenOff [] request work (Nat.zero_lt_succ n) ⟨host, h⟩ hlinked
  cases ending with
  | returned result =>
      cases hexecuted with
      | brokenOff broken reached => cases broken
      | returned =>
          rw [show taken scope host = _ from andThen_of_returned hrun, andThen_map,
            ownChanges_append, hwork, Host.replay_append]
          exact (hrest (host.replay entries)).cons ⟨request, result⟩
  | panicked panic =>
      rw [show taken scope host = _ from andThen_of_panicked hrun, hwork]
      cases hexecuted with
      | brokenOff broken reached =>
          rw [hreal] at hbroken
          exact hbroken _ rfl reached
  | exhausted =>
      rw [show taken scope host = _ from andThen_of_exhausted hrun, hwork]
      cases hexecuted with
      | brokenOff broken reached =>
          rw [hreal] at hbroken
          exact hbroken _ trivial reached

theorem roundTold_runRequests (hcalls : forall call, (accounts call).IsNested)
    (htells : forall call, (accounts call).Tells (acts call)) (n : Nat) (scope : Scope)
    (host : Host Key Memory) :
    RoundTold (Host.execute routines acts) n
      (runRequests routines accounts n scope host).1
      (ownChanges Change.isQueueWork scope (runRequests routines accounts n scope host).2)
      (host.replay (runRequests routines accounts n scope host).2).queue := by
  induction n generalizing host with
  | zero => exact RoundTold.completed [] (Nat.le_refl 0) (.inl rfl)
  | succ n ih =>
      simp only [runRequests, look]
      cases hqueue : host.queue with
      | nil => exact RoundTold.completed [] (Nat.zero_le _) (.inr hqueue)
      | cons request queue =>
          have htaken := roundTold_taken routines hcalls htells ih request
            (host.replay [⟨scope, .take request⟩])
          rw [ownChanges_tell_andThen]
          exact htaken

end Account

namespace Host

/-- From an empty queue on, requests are accounted for in each state that a run
passes through, and each round within it settles what it takes. -/
theorem requests_accounted (routines : Routines Key Memory) (depth : Nat)
    (operations : List (Operation Key)) {host : Host Key Memory} (hqueue : host.queue = []) :
    operations.foldl (fun host operation => (operation.act routines depth host).2) host =
      host.replay (told routines depth operations host) ∧
    (forall entries, entries <+: told routines depth operations host ->
      Queue.IsAccounted (addedIn entries) (takenIn entries) (host.replay entries).queue ∧
      (addedIn entries).Perm (takenIn entries ++ (host.replay entries).queue)) ∧
    (forall depth scope state,
      let round := Account.perform routines (depth + 1) .runPending scope state
      perform routines (depth + 1) .runPending state = (round.1, state.replay round.2) ∧
      RoundTold (execute routines (perform routines depth)) state.queue.length round.1
        (ownChanges Change.isQueueWork scope round.2) (state.replay round.2).queue) := by
  refine ⟨foldl_act_eq_replay routines depth operations host, ?_, ?_⟩
  · intro entries hprefix
    have hfits := throughout_told (fun operation host =>
      (Account.performed_operation routines depth operation {} host).fits) operations host
    rcases hprefix with ⟨later, hentries⟩
    rw [← hentries] at hfits
    have hstart : Queue.IsAccounted [] [] host.queue := by
      rw [hqueue]
      exact Queue.isAccounted_nil
    have haccounted := isAccounted_replay (throughout_append.mp hfits).1 hstart
    exact ⟨haccounted, haccounted.perm⟩
  · intro depth scope state round
    constructor
    · exact Account.tells_perform routines (depth + 1) .runPending scope state
    · exact Account.roundTold_runRequests routines (Account.isNested_perform routines depth)
        (Account.tells_perform routines depth) state.queue.length scope state

/-- Loading `chain` makes an urgent request and runs a round within the round;
`stray` does not link, and an observer breaks off when it is told of `trap`. -/
def entangled : Routines Nat Unit where
  compile _ source := .done (.ok source)
  link artifact :=
    if artifact = Path.ofString "stray" then .done (.error ⟨artifact, "no such file"⟩)
    else .done (.ok ())
  observe _ path? :=
    if path? = some (Path.ofString "chain") then
      .call (.enqueue ⟨Path.ofString "urgent", .immediate⟩) fun _ =>
        .call .runPending fun _ => .done .passThrough
    else if path? = some (Path.ofString "trap") then .panic (.text "trapped")
    else .done .passThrough

def entangledSession : List (Operation Nat) :=
  [.call (.register (.ofValue 0) "chained" 0),
    .call (.enqueue ⟨Path.ofString "chain", .deferred⟩),
    .call (.enqueue ⟨Path.ofString "stray", .deferred⟩),
    .call (.enqueue ⟨Path.ofString "trap", .deferred⟩),
    .call (.enqueue ⟨Path.ofString "last", .deferred⟩), .call .runPending,
    .call (.enqueue ⟨Path.ofString "first", .immediate⟩)]

def vacant : Host Nat Unit where
  memory := ()

theorem requests_accounted_entangledSession :
    vacant.queue = [] ∧
    (takenIn (told entangled 2 entangledSession vacant)).map (·.artifact.text) =
      ["chain", "urgent", "stray", "trap"] ∧
    (vacant.replay (told entangled 2 entangledSession vacant)).queue.map (·.artifact.text) =
      ["first", "last"] ∧
    (runPending entangled (perform entangled 1)
      (vacant.replay (told entangled 2 entangledSession vacant))).1 =
        .returned ⟨[Path.ofString "first", Path.ofString "last"], []⟩ ∧
    (addedIn (told entangled 2 entangledSession vacant)).Perm
      (takenIn (told entangled 2 entangledSession vacant) ++
        (vacant.replay (told entangled 2 entangledSession vacant)).queue) := by
  have hvacant : vacant.queue = [] := rfl
  rcases requests_accounted entangled 2 entangledSession hvacant with ⟨-, haccounted, -⟩
  refine ⟨hvacant, ?_, ?_, ?_, (haccounted _ (List.prefix_refl _)).2⟩
  · decide +kernel
  · decide +kernel
  · decide +kernel

end Host
end CompileOnLoad
