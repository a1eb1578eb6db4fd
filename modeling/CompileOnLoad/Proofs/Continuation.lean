import CompileOnLoad.Proofs.HostCalls
import CompileOnLoad.Proofs.Run

/-!
# What routines can do to the observers

Routines may call back, register actions and take them out again, and break off.
But as long as the host takes out only what it has registered, they change neither
the hooks nor the interceptors, and without the hooks the list of observers is the
one that the calls of the host alone make of it.
-/

namespace CompileOnLoad

variable {Key Memory α : Type}

namespace Host

/-- The host is one that routines can have made of another. -/
structure Continues (base host : Host Key (Watched Key Memory)) : Prop where
  interceptors : host.interceptors = base.interceptors
  seen : base.memory.seen <+: host.memory.seen
  nextId : base.pipeline.nextId ≤ host.pipeline.nextId
  hooks : Honest host.memory.seen -> host.pipeline.hooks = base.pipeline.hooks
  alone : Honest host.memory.seen ->
    (Alone.replay host.memory.seen).Matches host.pipeline

namespace Continues

variable {base host after : Host Key (Watched Key Memory)}

theorem refl (h : Honest host.memory.seen ->
    (Alone.replay host.memory.seen).Matches host.pipeline) : Continues host host where
  interceptors := rfl
  seen := List.prefix_refl _
  nextId := Nat.le_refl _
  hooks _ := rfl
  alone := h

theorem interceptor_eq (h : Continues base host) (index : Nat) :
    host.interceptor index = base.interceptor index :=
  interceptor_congr h.interceptors index

theorem of_eq (h : Continues base host)
    (hinterceptors : after.interceptors = host.interceptors)
    (hseen : after.memory.seen = host.memory.seen)
    (hpipeline : after.pipeline = host.pipeline) : Continues base after := by
  constructor
  · rw [hinterceptors]
    exact h.interceptors
  · rw [hseen]
    exact h.seen
  · rw [hpipeline]
    exact h.nextId
  · rw [hseen, hpipeline]
    exact h.hooks
  · rw [hseen, hpipeline]
    exact h.alone

theorem see {sighting : Sighting Key} (h : Continues base host)
    (hinterceptors : after.interceptors = host.interceptors)
    (hseen : after.memory.seen = host.memory.seen ++ [sighting])
    (hnextId : host.pipeline.nextId ≤ after.pipeline.nextId)
    (hpipeline : sighting.IsHonest (issuedIn host.memory.seen) ->
      (Alone.replay host.memory.seen).Matches host.pipeline ->
        after.pipeline.hooks = host.pipeline.hooks ∧
        ((Alone.replay host.memory.seen).next sighting).Matches after.pipeline) :
    Continues base after := by
  have hhonest : Honest after.memory.seen ->
      after.pipeline.hooks = base.pipeline.hooks ∧
      (Alone.replay after.memory.seen).Matches after.pipeline := by
    rw [hseen]
    intro hafter
    rcases hpipeline hafter.last (h.alone hafter.of_append) with ⟨hhooks, hmatches⟩
    rw [Alone.replay_snoc]
    exact ⟨hhooks.trans (h.hooks hafter.of_append), hmatches⟩
  constructor
  · exact hinterceptors.trans h.interceptors
  · rw [hseen]
    exact h.seen.trans (List.prefix_append _ _)
  · exact Nat.le_trans h.nextId hnextId
  · intro hafter
    exact (hhonest hafter).1
  · intro hafter
    exact (hhonest hafter).2

theorem see_other {sighting : Sighting Key} (h : Continues base host)
    (hother : forall alone : Alone Key, alone.next sighting = alone) :
    Continues base (host.see [sighting]) := by
  refine h.see rfl rfl (Nat.le_refl _) ?_
  intro _ hmatches
  rw [hother]
  exact ⟨rfl, hmatches⟩

theorem register (h : Continues base host) (priority : Priority) (name : String)
    (key : Key) :
    Continues base ((host.register priority (.action name key)).2.see
      [.registered host.pipeline.nextId priority name key]) := by
  refine h.see rfl rfl (Nat.le_succ _) ?_
  intro hhonest hmatches
  rcases hhonest with ⟨value, hvalue⟩
  rw [hvalue]
  exact ⟨Pipeline.hooks_register_action _ name key, hmatches.register value name key⟩

theorem unregister (h : Continues base host) (id : Nat) :
    Continues base ((host.unregister id).2.see [.unregistered id]) := by
  refine h.see rfl rfl (Nat.le_refl _) ?_
  intro hissued hmatches
  rcases Alone.exists_number hissued with ⟨number, hmem⟩
  exact ⟨hmatches.hooks_unregister hmem, hmatches.unregister hmem⟩

end Continues

/-!
# Every act continues
-/

def BothContinue (base host host' : Host Key (Watched Key Memory)) : Prop :=
  host = host' ∧ Continues base host

variable {base : Host Key (Watched Key Memory)}

theorem BothContinue.map {host host' : Host Key (Watched Key Memory)}
    (h : BothContinue base host host')
    (f : Host Key (Watched Key Memory) -> Host Key (Watched Key Memory))
    (hf : Continues base host -> Continues base (f host)) :
    BothContinue base (f host) (f host') :=
  ⟨congrArg f h.1, hf h.2⟩

theorem bothContinue_engineCorrespondence :
    EngineCorrespondence (BothContinue base) where
  logger h := congrArg Host.logger h.1
  pipeline h := congrArg Host.pipeline h.1
  queue h := congrArg Host.queue h.1
  history h := congrArg Host.history h.1
  interceptors h := congrArg Host.interceptors h.1
  engines h := congrArg Host.engines h.1
  suffixes h := congrArg Host.suffixes h.1
  policy h handle := congrArg (·.policy handle) h.1
  setQueue h queue :=
    h.map (fun host => { host with queue }) (·.of_eq rfl rfl rfl)
  remember h file := h.map (·.remember file) (·.of_eq rfl rfl rfl)
  log h logger level target message :=
    h.map (·.log logger level target message) (·.of_eq rfl rfl rfl)
  enterSpan h logger := h.map (·.enterSpan logger) (·.of_eq rfl rfl rfl)
  leaveSpan h logger := h.map (·.leaveSpan logger) (·.of_eq rfl rfl rfl)
  count h engine outcome := h.map (·.count engine outcome) (·.of_eq rfl rfl rfl)

variable {routines : Routines Key Memory} {depth : Nat}

theorem watch_bothContinue_of_silent {perform : Performer Key (Watched Key Memory)}
    {call : Call Key}
    (hperform : Act.Corresponds (BothContinue base) (perform call) (perform call))
    (hsilent : forall answer, call.sightings answer = []) :
    Act.Corresponds (BothContinue base) (call.watch perform) (call.watch perform) := by
  apply Act.corresponds_andThen hperform
  intro answer host host' h
  refine ⟨rfl, ?_⟩
  show BothContinue base (host.see (call.sightings answer))
    (host'.see (call.sightings answer))
  rw [hsilent, see_nil, see_nil]
  exact h

theorem watch_bothContinue
    (hnested : CallsCorrespond (BothContinue base) (perform routines.watched depth)
      (perform routines.watched depth)) (call : Call Key) :
    Act.Corresponds (BothContinue base) (call.watch (perform routines.watched depth))
      (call.watch (perform routines.watched depth)) := by
  cases call with
  | register priority name key =>
      unfold Call.watch
      rw [perform_register]
      intro host host' h
      rcases h with ⟨hsame, hcontinues⟩
      cases hsame
      exact ⟨rfl, rfl, hcontinues.register priority name key⟩
  | unregister id =>
      unfold Call.watch
      rw [perform_unregister]
      intro host host' h
      rcases h with ⟨hsame, hcontinues⟩
      cases hsame
      exact ⟨rfl, rfl, hcontinues.unregister id⟩
  | enqueue request =>
      apply watch_bothContinue_of_silent _ fun _ => rfl
      rw [perform_enqueue]
      apply Act.corresponds_ofPure
      intro host host' h
      exact ⟨rfl, h.map (·.enqueue request) (·.of_eq rfl rfl rfl)⟩
  | editPolicy handle edit =>
      apply watch_bothContinue_of_silent _ fun _ => rfl
      rw [perform_editPolicy]
      apply Act.corresponds_ofPure
      intro host host' h
      exact ⟨rfl, h.map (·.updatePolicy handle edit) (·.of_eq rfl rfl rfl)⟩
  | load source =>
      exact watch_bothContinue_of_silent (hnested.load source) fun _ => rfl
  | announce path? =>
      exact watch_bothContinue_of_silent (hnested.announce path?) fun _ => rfl
  | runPending =>
      exact watch_bothContinue_of_silent hnested.runPending fun _ => rfl
  | compile engine path? =>
      exact watch_bothContinue_of_silent (hnested.compile engine path?) fun _ => rfl

theorem watched_bothContinue {perform : Performer Key (Watched Key Memory)}
    (hwatch : forall call, Act.Corresponds (BothContinue base)
      (Call.watch perform call) (Call.watch perform call))
    (script : Script Key Memory α) :
    Act.Corresponds (BothContinue base) (script.watched.run perform)
      (script.watched.run perform) := by
  induction script with
  | done a => exact Act.corresponds_returned a
  | panic p =>
      intro host host' h
      exact ⟨rfl, h⟩
  | consult next ih =>
      intro host host' h
      rcases h with ⟨hsame, hcontinues⟩
      cases hsame
      exact ih host.memory.memory host host ⟨rfl, hcontinues⟩
  | store memory next ih =>
      intro host host' h
      rcases h with ⟨hsame, hcontinues⟩
      cases hsame
      exact ih _ _ ⟨rfl, hcontinues.of_eq rfl rfl rfl⟩
  | call c next ih =>
      rw [Script.run_watched_call]
      exact Act.corresponds_andThen (hwatch c) ih

theorem BothContinue.note {host host' : Host Key (Watched Key Memory)}
    (h : BothContinue base host host') (sighting : Sighting Key)
    (hother : forall alone : Alone Key, alone.next sighting = alone) :
    BothContinue base (host.see [sighting]) (host'.see [sighting]) :=
  h.map (·.see [sighting]) (·.see_other hother)

theorem scripts_bothContinue {perform : Performer Key (Watched Key Memory)}
    (hwatch : forall call, Act.Corresponds (BothContinue base)
      (Call.watch perform call) (Call.watch perform call)) :
    ScriptsCorrespond (BothContinue base) routines.watched perform
      routines.watched perform where
  compile := by
    intro engine source host host' h
    have hnoted := h.note (.compiling engine source) fun _ => rfl
    exact watched_bothContinue hwatch (routines.compile engine source) _ _ hnoted
  link := by
    intro artifact
    unfold Routines.watched
    simp only [Script.run_andThen]
    apply Act.corresponds_andThen (watched_bothContinue hwatch (routines.link artifact))
    intro result host host' h
    cases result with
    | ok _ => exact ⟨rfl, h.note (.linked artifact) fun _ => rfl⟩
    | error failure => exact ⟨rfl, h⟩
  observe := by
    intro key path? host host' h
    have hnoted := h.note (.visited key path?) fun _ => rfl
    exact watched_bothContinue hwatch (routines.observe key path?) _ _ hnoted

theorem calls_bothContinue (routines : Routines Key Memory) (depth : Nat) :
    CallsCorrespond (BothContinue base) (perform routines.watched depth)
      (perform routines.watched depth) := by
  apply bothContinue_engineCorrespondence.callsCorrespond
  intro depth hnested
  exact scripts_bothContinue (watch_bothContinue hnested)

theorem routines_bothContinue (routines : Routines Key Memory) (depth : Nat) :
    RoutinesCorrespond (BothContinue base) routines.watched
      (perform routines.watched depth) routines.watched
      (perform routines.watched depth) :=
  bothContinue_engineCorrespondence.routinesCorrespond
    (scripts_bothContinue (watch_bothContinue (calls_bothContinue routines depth)))

theorem Continues.after {act : Act Key (Watched Key Memory) α}
    (hact : Act.Corresponds (BothContinue base) act act)
    {host : Host Key (Watched Key Memory)} (h : Continues base host) :
    Continues base (act host).2 :=
  (hact host host ⟨rfl, h⟩).2.2

theorem Continues.call {host : Host Key (Watched Key Memory)} (h : Continues base host)
    (routines : Routines Key Memory) (depth : Nat) (c : Call Key) :
    Continues base ((Operation.call c).watch routines depth host).2 :=
  h.after (watch_bothContinue (calls_bothContinue routines (depth + 1)) c)

theorem Continues.handle {host : Host Key (Watched Key Memory)}
    (h : Continues base host) (routines : Routines Key Memory) (depth index : Nat)
    (path? : Option Path) :
    Continues base ((Operation.handle index path?).watch routines depth host).2 :=
  h.after (bothContinue_engineCorrespondence.toCorrespondence.handle
    (routines_bothContinue routines depth) index path?)

theorem Continues.sweep {host : Host Key (Watched Key Memory)}
    (h : Continues base host) (routines : Routines Key Memory) (depth index : Nat) :
    Continues base (Interceptor.sweep routines.watched
      (Host.perform routines.watched depth) index host).2 :=
  h.after (bothContinue_engineCorrespondence.toCorrespondence.sweep
    (routines_bothContinue routines depth) index)

end Host
end CompileOnLoad
