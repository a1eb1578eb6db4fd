import CompileOnLoad.Proofs.Passage

/-!
# Requests

With quiet routines, a request whose artifact is linked is a load of the
artifact.  One whose artifact is refused leaves nothing behind, and neither does
one where the linker breaks off.
-/

namespace CompileOnLoad

variable {Key Memory : Type}

/-- How the execution of a request can end, with what it leaves behind. -/
inductive Execution (routines : Routines Key Memory)
    (eligible : Nat -> Option Path -> Bool) (observers : List (Observer Key))
    (artifact : Path) :
    Ending (Except LoadFailure Unit) -> List (Sighting Key) -> List Request -> Prop where
  | linked {sightings : List (Sighting Key)} {requests : List Request}
      (passage : Passage eligible (some artifact) observers sightings requests) :
      Execution routines eligible observers artifact (.returned (.ok ()))
        (.linked artifact :: sightings) requests
  | refused (failure : LoadFailure) :
      Execution routines eligible observers artifact (.returned (.error failure)) [] []
  | brokenOff {memory : Memory} {panic : Panic}
      (breaks : ((routines.link artifact).eval memory).1 = .panicked panic) :
      Execution routines eligible observers artifact (.panicked panic) [] []

theorem Execution.returns {routines : Routines Key Memory}
    {eligible : Nat -> Option Path -> Bool} {observers : List (Observer Key)}
    {artifact : Path} {ending : Ending (Except LoadFailure Unit)}
    {sightings : List (Sighting Key)} {requests : List Request}
    (hlinker : routines.LinkerAnswers)
    (h : Execution routines eligible observers artifact ending sightings requests) :
    exists result, ending = .returned result := by
  cases h with
  | linked passage => exact ⟨_, rfl⟩
  | refused failure => exact ⟨_, rfl⟩
  | brokenOff breaks =>
      rename_i memory panic
      rcases hlinker artifact memory with ⟨result, hresult⟩
      rw [hresult] at breaks
      cases breaks

namespace Host

variable {routines : Routines Key Memory}

theorem link_moves (hquiet : routines.Quiet)
    (perform : Performer Key (Watched Key Memory)) (artifact : Path)
    (host : Host Key (Watched Key Memory)) :
    ((routines.watched.link artifact).run perform host).1 =
        ((routines.link artifact).eval host.memory.memory).1 ∧
      Moves host ((routines.watched.link artifact).run perform host).2
        (Routines.linkSightings artifact
          ((routines.link artifact).eval host.memory.memory).1) [] := by
  rw [Script.run_eq_eval perform (hquiet.watched.link artifact),
    Routines.eval_watched_link hquiet]
  refine ⟨rfl, ⟨rfl, rfl, rfl, ?_, rfl⟩, (List.append_nil _).symm⟩
  intro engine path?
  rfl

theorem execute_of_linked {perform : Performer Key Memory} {artifact : Path}
    {host middle after : Host Key Memory} {report : DispatchReport}
    (hlink : (routines.link artifact).run perform host = (.returned (.ok ()), middle))
    (hannounce : announce routines perform (some artifact)
        (middle.log middle.logger .debug queueTarget ("Loaded " ++ artifact.text)) =
      (.returned report, after)) :
    execute routines perform artifact host = (.returned (.ok ()), after) := by
  simp only [execute, Act.andThen, hlink, hannounce]

theorem execute_of_refused {perform : Performer Key Memory} {artifact : Path}
    {host middle : Host Key Memory} {failure : LoadFailure}
    (hlink : (routines.link artifact).run perform host =
      (.returned (.error failure), middle)) :
    execute routines perform artifact host =
      (.returned (.error failure),
        middle.log middle.logger .error queueTarget failure.message) := by
  simp only [execute, Act.andThen, hlink]

theorem execute_of_brokenOff {perform : Performer Key Memory} {artifact : Path}
    {host middle : Host Key Memory} {panic : Panic}
    (hlink : (routines.link artifact).run perform host = (.panicked panic, middle)) :
    execute routines perform artifact host = (.panicked panic, middle) := by
  simp only [execute, Act.andThen, hlink]

theorem execute_moves (hquiet : routines.Quiet) (hpass : routines.PassOn)
    (perform : Performer Key (Watched Key Memory)) (artifact : Path)
    (host : Host Key (Watched Key Memory)) :
    exists sightings requests,
      Execution routines host.isEligible host.pipeline.observers artifact
        (execute routines.watched perform artifact host).1 sightings requests ∧
      Moves host (execute routines.watched perform artifact host).2
        sightings requests := by
  rcases link_moves hquiet perform artifact host with ⟨hlink, hmoves⟩
  rcases hrun : (routines.watched.link artifact).run perform host with ⟨ending, middle⟩
  rw [hrun] at hlink hmoves
  cases ending with
  | exhausted =>
      exact absurd hlink.symm
        (Script.eval_ne_exhausted (hquiet.link artifact) host.memory.memory)
  | panicked panic =>
      rw [← hlink] at hmoves
      rw [execute_of_brokenOff hrun]
      exact ⟨[], [], Execution.brokenOff hlink.symm, hmoves⟩
  | returned result =>
      rw [← hlink] at hmoves
      cases result with
      | error failure =>
          rw [execute_of_refused hrun]
          refine ⟨[], [], Execution.refused failure, ?_⟩
          exact hmoves.of_sameBare (sameBare_log _ _ _ _ _)
      | ok _ =>
          have hlogged := hmoves.of_sameBare
            (sameBare_log middle middle.logger .debug queueTarget
              ("Loaded " ++ artifact.text))
          rcases announce_moves hquiet hpass perform (some artifact)
            (middle.log middle.logger .debug queueTarget ("Loaded " ++ artifact.text))
            with ⟨report, sightings, requests, hreport, hafter, hpassage⟩
          rw [hlogged.isEligible_eq, hlogged.pipeline] at hpassage
          rw [execute_of_linked hrun (Prod.ext hreport rfl)]
          exact ⟨_, _, Execution.linked hpassage, hlogged.trans hafter⟩

end Host

/-- What a round of the queue can leave behind, and what it makes of the queue. -/
inductive Round (routines : Routines Key Memory)
    (eligible : Nat -> Option Path -> Bool) (observers : List (Observer Key)) :
    Ending RunReport -> List (Sighting Key) -> Queue -> Queue -> Prop where
  | done (queue : Queue) :
      Round routines eligible observers (.returned {}) [] queue queue
  | next {request : Request} {result : Except LoadFailure Unit}
      {ending : Ending RunReport} {sightings rest : List (Sighting Key)}
      {requests : List Request} {queue left : Queue}
      (first : Execution routines eligible observers request.artifact
        (.returned result) sightings requests)
      (later : Round routines eligible observers ending rest (queue ++ requests) left) :
      Round routines eligible observers
        (ending.map (RunReport.note request.artifact result)) (sightings ++ rest)
        (request :: queue) left
  | brokenOff {request : Request} {panic : Panic} {sightings : List (Sighting Key)}
      {requests : List Request} {queue : Queue}
      (first : Execution routines eligible observers request.artifact
        (.panicked panic) sightings requests) :
      Round routines eligible observers (.panicked panic) sightings
        (request :: queue) (queue ++ requests)

theorem Round.returns {routines : Routines Key Memory}
    {eligible : Nat -> Option Path -> Bool} {observers : List (Observer Key)}
    {ending : Ending RunReport} {sightings : List (Sighting Key)} {queue left : Queue}
    (hlinker : routines.LinkerAnswers)
    (h : Round routines eligible observers ending sightings queue left) :
    exists report, ending = .returned report := by
  induction h with
  | done queue => exact ⟨_, rfl⟩
  | next first later ih =>
      rcases ih with ⟨report, hending⟩
      exact ⟨_, congrArg (Ending.map _) hending⟩
  | brokenOff first =>
      rcases first.returns hlinker with ⟨result, hresult⟩
      cases hresult

namespace Host

variable {routines : Routines Key Memory}

theorem runRequests_round (hquiet : routines.Quiet) (hpass : routines.PassOn)
    (perform : Performer Key (Watched Key Memory)) (n : Nat)
    (host : Host Key (Watched Key Memory)) :
    exists sightings,
      Round routines host.isEligible host.pipeline.observers
        (runRequests routines.watched perform n host).1 sightings host.queue
        (runRequests routines.watched perform n host).2.queue ∧
      Keeps host (runRequests routines.watched perform n host).2 sightings := by
  induction n generalizing host with
  | zero => exact ⟨[], Round.done host.queue, keeps_refl host⟩
  | succ n ih =>
      unfold runRequests
      cases hqueue : host.queue with
      | nil =>
          simp only
          rw [← hqueue]
          exact ⟨[], Round.done host.queue, keeps_refl host⟩
      | cons request queue =>
          simp only
          rcases execute_moves hquiet hpass perform request.artifact { host with queue }
            with ⟨sightings, requests, hexecution, hmoves⟩
          have hkeeps := (keeps_setQueue host queue).trans hmoves.toKeeps
          rcases hrun : execute routines.watched perform request.artifact
            { host with queue } with ⟨ending, middle⟩
          rw [hrun] at hexecution hmoves hkeeps
          cases ending with
          | exhausted => cases hexecution
          | panicked panic =>
              rw [Act.andThen_of_panicked hrun]
              refine ⟨sightings, ?_, hkeeps⟩
              rw [hmoves.queue]
              exact Round.brokenOff hexecution
          | returned result =>
              rcases ih middle with ⟨rest, hround, hrest⟩
              rw [hkeeps.isEligible_eq, hkeeps.pipeline, hmoves.queue] at hround
              rw [Act.andThen_of_returned hrun, Act.andThen_map]
              exact ⟨sightings ++ rest, Round.next hexecution hround, hkeeps.trans hrest⟩

end Host

/-!
# Sweeps

A sweep gives files to one engine, whatever became of them before.
-/

theorem Tally.compiled_count (tally : Tally) (outcome : Outcome) :
    (tally.count outcome).compiled = tally.compiled + outcome.requests.length := by
  cases outcome with
  | skipped => rfl
  | compiled artifact => rfl
  | failed failure => rfl

namespace Interceptor

variable {routines : Routines Key Memory}

def sweepings (eligible : Nat -> Option Path -> Bool) (engine : Nat)
    (files : List LoadedFile) : List (Sighting Key) :=
  files.flatMap fun file => compilings eligible engine (some file.source)

theorem sweepFiles_moves (hquiet : routines.Quiet)
    (perform : Performer Key (Watched Key Memory)) (engine : Nat)
    (files : List LoadedFile) (report : SweepReport)
    (host : Host Key (Watched Key Memory)) :
    exists report' requests,
      (sweepFiles routines.watched perform engine report files host).1 =
        .returned report' ∧
      Host.Moves host (sweepFiles routines.watched perform engine report files host).2
        (sweepings host.isEligible engine files) requests ∧
      report'.tally.compiled = report.tally.compiled + requests.length := by
  induction files generalizing report host with
  | nil => exact ⟨report, [], rfl, Host.moves_refl host, rfl⟩
  | cons file rest ih =>
      rcases Engine.compile_moves hquiet perform engine (some file.source) host
        with ⟨outcome, hending, hmoves⟩
      rcases ih (report.note outcome)
        (Engine.compile routines.watched perform engine (some file.source) host).2
        with ⟨report', requests, hrest, hafter, hcount⟩
      have hsplit :
          sweepFiles routines.watched perform engine report (file :: rest) host =
            sweepFiles routines.watched perform engine (report.note outcome) rest
              (Engine.compile routines.watched perform engine (some file.source) host).2 := by
        simp only [sweepFiles, Act.andThen]
        rw [show Engine.compile routines.watched perform engine (some file.source) host =
          (.returned outcome, _) from Prod.ext hending rfl]
      rw [hmoves.isEligible_eq] at hafter
      rw [hsplit]
      refine ⟨report', _, hrest, hmoves.trans hafter, ?_⟩
      rw [hcount, List.length_append, ← Nat.add_assoc]
      exact congrArg (· + requests.length) (Tally.compiled_count report.tally outcome)

theorem sweep_of_returned {perform : Performer Key Memory} {index : Nat}
    {host after : Host Key Memory} {report : SweepReport}
    (hswept : sweepFiles routines perform (host.interceptor index).engine {}
        host.history
        ((host.enterSpan (host.interceptor index).logger).log
          (host.interceptor index).logger .debug target
          ("sweeping " ++ toString host.history.length ++ " previously loaded files")) =
      (.returned report, after)) :
    (sweep routines perform index host).1 = .returned report ∧
      Host.SameBare (sweep routines perform index host).2 after := by
  unfold sweep
  simp only [hswept]
  exact ⟨trivial, Host.sameBare_log after _ _ _ _⟩

theorem sweep_moves (hquiet : routines.Quiet)
    (perform : Performer Key (Watched Key Memory)) (index : Nat)
    (host : Host Key (Watched Key Memory)) :
    exists report requests,
      (sweep routines.watched perform index host).1 = .returned report ∧
      Host.Moves host (sweep routines.watched perform index host).2
        (sweepings host.isEligible (host.interceptor index).engine host.history)
        requests ∧
      report.tally.compiled = requests.length := by
  have hentered : Host.SameBare
      ((host.enterSpan (host.interceptor index).logger).log
        (host.interceptor index).logger .debug target
        ("sweeping " ++ toString host.history.length ++ " previously loaded files"))
      host := Host.sameBare_log _ _ _ _ _
  have hstart := Host.moves_of_sameBare hentered
  rcases sweepFiles_moves hquiet perform (host.interceptor index).engine host.history {} _
    with ⟨report, requests, hending, hmoves, hcount⟩
  rcases sweep_of_returned (Prod.ext hending rfl) with ⟨hreport, hsame⟩
  rw [hstart.isEligible_eq] at hmoves
  refine ⟨report, requests, hreport, ?_, ?_⟩
  · exact (hstart.trans hmoves).of_sameBare hsame
  · rw [hcount]
    exact Nat.zero_add _

end Interceptor
end CompileOnLoad
