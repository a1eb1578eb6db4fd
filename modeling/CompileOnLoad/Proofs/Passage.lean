import CompileOnLoad.Proofs.Compilation

/-!
# What a load leaves behind

With quiet routines and actions that let every load pass, a load changes nothing
that a later load depends on: the observers, the activations, what was loaded
before and what is eligible all stay.  It does leave sightings, and requests for
the artifacts of files that were compiled for it.  Which ones these can be is
told by the observers that it passes.
-/

namespace CompileOnLoad

variable {Key Memory : Type}

namespace Host

/-- Between the states some sightings were added, and nothing was changed that
loads depend on. -/
structure Keeps (before after : Host Key (Watched Key Memory))
    (sightings : List (Sighting Key)) : Prop where
  pipeline : after.pipeline = before.pipeline
  interceptors : after.interceptors = before.interceptors
  history : after.history = before.history
  eligible : forall engine path?,
    after.isEligible engine path? = before.isEligible engine path?
  seen : after.memory.seen = before.memory.seen ++ sightings

structure Moves (before after : Host Key (Watched Key Memory))
    (sightings : List (Sighting Key)) (requests : List Request) : Prop
    extends Keeps before after sightings where
  queue : after.queue = before.queue ++ requests

variable {before middle after : Host Key (Watched Key Memory)}
variable {sightings sightings' : List (Sighting Key)} {requests requests' : List Request}

theorem keeps_refl (host : Host Key (Watched Key Memory)) : Keeps host host [] where
  pipeline := rfl
  interceptors := rfl
  history := rfl
  eligible _ _ := rfl
  seen := (List.append_nil _).symm

theorem keeps_setQueue (host : Host Key (Watched Key Memory)) (queue : Queue) :
    Keeps host { host with queue } [] where
  pipeline := rfl
  interceptors := rfl
  history := rfl
  eligible _ _ := rfl
  seen := (List.append_nil _).symm

theorem Keeps.trans (hfirst : Keeps before middle sightings)
    (hnext : Keeps middle after sightings') :
    Keeps before after (sightings ++ sightings') where
  pipeline := hnext.pipeline.trans hfirst.pipeline
  interceptors := hnext.interceptors.trans hfirst.interceptors
  history := hnext.history.trans hfirst.history
  eligible engine path? :=
    (hnext.eligible engine path?).trans (hfirst.eligible engine path?)
  seen := by rw [hnext.seen, hfirst.seen, List.append_assoc]

theorem Keeps.of_sameBare (hkeeps : Keeps before middle sightings)
    (hsame : SameBare after middle) : Keeps before after sightings where
  pipeline := (hsame.eq Host.pipeline fun _ => rfl).trans hkeeps.pipeline
  interceptors := (hsame.eq Host.interceptors fun _ => rfl).trans hkeeps.interceptors
  history := (hsame.eq Host.history fun _ => rfl).trans hkeeps.history
  eligible engine path? :=
    (hsame.isEligible engine path?).trans (hkeeps.eligible engine path?)
  seen := (hsame.eq (·.memory.seen) fun _ => rfl).trans hkeeps.seen

theorem Keeps.isEligible_eq (hkeeps : Keeps before after sightings) :
    after.isEligible = before.isEligible := by
  funext engine path?
  exact hkeeps.eligible engine path?

theorem moves_refl (host : Host Key (Watched Key Memory)) :
    Moves host host [] [] where
  toKeeps := keeps_refl host
  queue := (List.append_nil _).symm

theorem Moves.trans (hfirst : Moves before middle sightings requests)
    (hnext : Moves middle after sightings' requests') :
    Moves before after (sightings ++ sightings') (requests ++ requests') where
  toKeeps := hfirst.toKeeps.trans hnext.toKeeps
  queue := by rw [hnext.queue, hfirst.queue, List.append_assoc]

theorem Moves.of_sameBare (hmoves : Moves before middle sightings requests)
    (hsame : SameBare after middle) : Moves before after sightings requests where
  toKeeps := hmoves.toKeeps.of_sameBare hsame
  queue := (hsame.eq Host.queue fun _ => rfl).trans hmoves.queue

theorem moves_of_sameBare (hsame : SameBare after before) :
    Moves before after [] [] :=
  (moves_refl before).of_sameBare hsame

theorem engine_policy_count (host : Host Key Memory) (index engine : Nat)
    (outcome : Outcome) :
    ((host.count index outcome).engine engine).policy = (host.engine engine).policy := by
  unfold Host.engine count
  simp only [List.getD_eq_getElem?_getD, List.getElem?_modify]
  cases host.engines[engine]? with
  | none => rfl
  | some found =>
      by_cases hindex : index = engine
      · simp [hindex]
      · simp [hindex]

theorem isEligible_settle (host : Host Key Memory) (index : Nat)
    (result : Outcome × Memory) (engine : Nat) (path? : Option Path) :
    (host.settle index result).isEligible engine path? =
      host.isEligible engine path? := by
  unfold isEligible settle
  rw [engine_policy_count]
  rfl

theorem moves_settle (index : Nat) {result : Outcome × Watched Key Memory}
    (hseen : result.2.seen = before.memory.seen ++ sightings) :
    Moves before (before.settle index result) sightings result.1.requests where
  pipeline := rfl
  interceptors := rfl
  history := rfl
  eligible engine path? := isEligible_settle before index result engine path?
  seen := hseen
  queue := rfl

end Host

/-!
# One observer

A file that is eligible for an engine is given to its compiler, and to no other.
-/

def compilings (eligible : Nat -> Option Path -> Bool) (engine : Nat)
    (path? : Option Path) : List (Sighting Key) :=
  (path?.toList.filter fun source => eligible engine (some source)).map
    (.compiling engine)

theorem compilings_of_eligible {eligible : Nat -> Option Path -> Bool}
    {engine : Nat} {source : Path} (h : eligible engine (some source) = true) :
    (compilings eligible engine (some source) : List (Sighting Key)) =
      [.compiling engine source] := by
  unfold compilings
  simp [h]

theorem compilings_of_ineligible {eligible : Nat -> Option Path -> Bool}
    {engine : Nat} {path? : Option Path} (h : eligible engine path? = false) :
    (compilings eligible engine path? : List (Sighting Key)) = [] := by
  unfold compilings
  cases path? with
  | none => rfl
  | some source => simp [h]

namespace Engine

variable {routines : Routines Key Memory}

theorem seen_result (hquiet : routines.Quiet) (index : Nat) (path? : Option Path)
    (host : Host Key (Watched Key Memory)) :
    (result routines.watched index path? host).2.seen =
      host.memory.seen ++ compilings host.isEligible index path? := by
  cases heligible : host.isEligible index path? with
  | false =>
      rw [result_of_ineligible heligible, compilings_of_ineligible heligible,
        List.append_nil]
  | true =>
      cases path? with
      | none => cases heligible
      | some source =>
          rw [result_of_eligible heligible, compilings_of_eligible heligible,
            Routines.eval_watched_compile hquiet]

theorem compile_moves (hquiet : routines.Quiet)
    (perform : Performer Key (Watched Key Memory)) (index : Nat)
    (path? : Option Path) (host : Host Key (Watched Key Memory)) :
    exists outcome : Outcome,
      (compile routines.watched perform index path? host).1 = .returned outcome ∧
      Host.Moves host (compile routines.watched perform index path? host).2
        (compilings host.isEligible index path?) outcome.requests := by
  rcases compile_quiet perform (hquiet.watched.compile index) path? host
    with ⟨hending, hsame⟩
  have hsettled := Host.moves_settle index (seen_result hquiet index path? host)
  exact ⟨_, hending, hsettled.of_sameBare hsame⟩

end Engine

theorem Host.observe_moves {routines : Routines Key Memory} (hquiet : routines.Quiet)
    (hpass : routines.PassOn) (perform : Performer Key (Watched Key Memory))
    (key : Key) (path? : Option Path) (host : Host Key (Watched Key Memory)) :
    ((routines.watched.observe key path?).run perform host).1 =
        .returned .passThrough ∧
      Host.Moves host ((routines.watched.observe key path?).run perform host).2
        [.visited key path?] [] := by
  rw [Script.run_eq_eval perform (hquiet.watched.observe key path?),
    Routines.eval_watched_observe hquiet]
  constructor
  · exact hpass key path? host.memory.memory
  · refine ⟨⟨rfl, rfl, rfl, ?_, rfl⟩, (List.append_nil _).symm⟩
    intro engine path?
    rfl

/-!
# Observers one after the other
-/

/-- What a load can leave behind when it passes observers that leave it to those
after them, unless they have compiled a file for it. -/
inductive Passage (eligible : Nat -> Option Path -> Bool) (path? : Option Path) :
    List (Observer Key) -> List (Sighting Key) -> List Request -> Prop where
  | nil : Passage eligible path? [] [] []
  | action {name : String} {key : Key} {rest : List (Observer Key)}
      {sightings : List (Sighting Key)} {requests : List Request}
      (next : Passage eligible path? rest sightings requests) :
      Passage eligible path? (.action name key :: rest)
        (.visited key path? :: sightings) requests
  | passed {engine : Nat} {rest : List (Observer Key)}
      {sightings : List (Sighting Key)} {requests : List Request}
      (next : Passage eligible path? rest sightings requests) :
      Passage eligible path? (.hook engine :: rest)
        (compilings eligible engine path? ++ sightings) requests
  | handled {engine : Nat} {rest : List (Observer Key)} (artifact : Path) :
      Passage eligible path? (.hook engine :: rest)
        (compilings eligible engine path?) [⟨artifact, .deferred⟩]

namespace Host

variable {routines : Routines Key Memory}

theorem visitAll_of_handled {perform : Performer Key Memory}
    {routines : Routines Key Memory} {path? : Option Path} {observer : Observer Key}
    {host middle : Host Key Memory}
    (hvisit : visit routines perform path? observer host = (.returned .handled, middle))
    (rest : List (Observer Key)) :
    visitAll routines perform path? (observer :: rest) host =
      (.returned { ran := [observer.name], handledBy := some observer.name },
        reportVisit path? observer.name .handled middle) := by
  simp only [visitAll, Act.andThen, hvisit]

theorem visitAll_of_passThrough {perform : Performer Key Memory}
    {routines : Routines Key Memory} {path? : Option Path} {observer : Observer Key}
    {host middle after : Host Key Memory} {rest : List (Observer Key)}
    {report : DispatchReport}
    (hvisit : visit routines perform path? observer host =
      (.returned .passThrough, middle))
    (hrest : visitAll routines perform path? rest
        (reportVisit path? observer.name .passThrough middle) =
      (.returned report, after)) :
    visitAll routines perform path? (observer :: rest) host =
      (.returned { report with ran := observer.name :: report.ran }, after) := by
  simp only [visitAll, Act.andThen, hvisit, hrest]

/-- What comes before the last observers is put before what those leave. -/
theorem visitAll_moves_of_passThrough {perform : Performer Key (Watched Key Memory)}
    {path? : Option Path} {observer : Observer Key} {rest : List (Observer Key)}
    {host middle : Host Key (Watched Key Memory)}
    {sightings : List (Sighting Key)} {requests : List Request}
    (hvisit : visit routines.watched perform path? observer host =
      (.returned .passThrough, middle))
    (hmiddle : Moves host middle sightings requests)
    (ih : forall host, exists report sightings requests,
      (visitAll routines.watched perform path? rest host).1 = .returned report ∧
      Moves host (visitAll routines.watched perform path? rest host).2
        sightings requests ∧
      Passage host.isEligible path? rest sightings requests) :
    exists report sightings' requests',
      (visitAll routines.watched perform path? (observer :: rest) host).1 =
        .returned report ∧
      Moves host (visitAll routines.watched perform path? (observer :: rest) host).2
        (sightings ++ sightings') (requests ++ requests') ∧
      Passage host.isEligible path? rest sightings' requests' := by
  have hreported := hmiddle.of_sameBare
    (sameBare_reportVisit path? observer.name .passThrough middle)
  rcases ih (reportVisit path? observer.name .passThrough middle)
    with ⟨report, sightings', requests', hending, hmoves, hpassage⟩
  rw [visitAll_of_passThrough hvisit (Prod.ext hending rfl)]
  refine ⟨_, sightings', requests', rfl, hreported.trans hmoves, ?_⟩
  rw [← hreported.isEligible_eq]
  exact hpassage

theorem visitAll_moves (hquiet : routines.Quiet) (hpass : routines.PassOn)
    (perform : Performer Key (Watched Key Memory)) (path? : Option Path)
    (observers : List (Observer Key)) (host : Host Key (Watched Key Memory)) :
    exists report sightings requests,
      (visitAll routines.watched perform path? observers host).1 = .returned report ∧
      Moves host (visitAll routines.watched perform path? observers host).2
        sightings requests ∧
      Passage host.isEligible path? observers sightings requests := by
  induction observers generalizing host with
  | nil => exact ⟨{}, [], [], rfl, moves_refl host, Passage.nil⟩
  | cons observer rest ih =>
      cases observer with
      | action name key =>
          rcases observe_moves hquiet hpass perform key path? host with ⟨hending, hmoves⟩
          have hvisit : visit routines.watched perform path? (.action name key) host =
              (.returned .passThrough,
                ((routines.watched.observe key path?).run perform host).2) :=
            Prod.ext hending rfl
          rcases visitAll_moves_of_passThrough hvisit hmoves ih
            with ⟨report, sightings, requests, hreport, hafter, hpassage⟩
          exact ⟨report, _, _, hreport, hafter, Passage.action hpassage⟩
      | hook engine =>
          rcases Engine.compile_moves hquiet perform engine path? host
            with ⟨outcome, hending, hmoves⟩
          have hvisit : visit routines.watched perform path? (.hook engine) host =
              (.returned outcome.disposition,
                (Engine.compile routines.watched perform engine path? host).2) := by
            simp only [visit, Act.andThen]
            rw [show Engine.compile routines.watched perform engine path? host =
              (.returned outcome, _) from Prod.ext hending rfl]
          cases outcome with
          | compiled artifact =>
              rw [visitAll_of_handled hvisit]
              refine ⟨_, _, _, rfl, ?_, Passage.handled artifact⟩
              exact hmoves.of_sameBare (sameBare_reportVisit _ _ _ _)
          | skipped =>
              rcases visitAll_moves_of_passThrough hvisit hmoves ih
                with ⟨report, sightings, requests, hreport, hafter, hpassage⟩
              exact ⟨report, _, _, hreport, hafter, Passage.passed hpassage⟩
          | failed failure =>
              rcases visitAll_moves_of_passThrough hvisit hmoves ih
                with ⟨report, sightings, requests, hreport, hafter, hpassage⟩
              exact ⟨report, _, _, hreport, hafter, Passage.passed hpassage⟩

theorem announce_moves (hquiet : routines.Quiet) (hpass : routines.PassOn)
    (perform : Performer Key (Watched Key Memory)) (path? : Option Path)
    (host : Host Key (Watched Key Memory)) :
    exists report sightings requests,
      (announce routines.watched perform path? host).1 = .returned report ∧
      Moves host (announce routines.watched perform path? host).2
        sightings requests ∧
      Passage host.isEligible path? host.pipeline.observers sightings requests :=
  visitAll_moves hquiet hpass perform path? host.pipeline.observers host

end Host
end CompileOnLoad
