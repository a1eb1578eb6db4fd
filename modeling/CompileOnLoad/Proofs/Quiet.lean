import CompileOnLoad.Proofs.Run

/-!
# Quiet routines

A routine is quiet if it does not call back into its host.  A quiet script is a
function of the memory: whoever carries out calls, it ends in the same way, and
nothing of the host but the memory changes.
-/

namespace CompileOnLoad

variable {Key Memory α β : Type}

namespace Script

def eval : Script Key Memory α -> Memory -> Ending α × Memory
  | done a, memory => (.returned a, memory)
  | panic p, memory => (.panicked p, memory)
  | consult next, memory => (next memory).eval memory
  | store memory next, _ => next.eval memory
  | call _ _, memory => (.exhausted, memory)

theorem run_eq_eval (perform : Performer Key Memory) {script : Script Key Memory α}
    (hquiet : script.IsQuiet) (host : Host Key Memory) :
    script.run perform host =
      ((script.eval host.memory).1,
        { host with memory := (script.eval host.memory).2 }) := by
  induction script generalizing host with
  | done a => rfl
  | panic p => rfl
  | consult next ih => exact ih host.memory (hquiet host.memory) host
  | store memory next ih => exact ih hquiet { host with memory }
  | call c next ih => exact hquiet.elim

theorem eval_ne_exhausted {script : Script Key Memory α} (hquiet : script.IsQuiet)
    (memory : Memory) : (script.eval memory).1 ≠ .exhausted := by
  induction script generalizing memory with
  | done a => intro h; cases h
  | panic p => intro h; cases h
  | consult next ih => exact ih memory (hquiet memory) memory
  | store stored next ih => exact ih hquiet stored
  | call c next ih => exact hquiet.elim

theorem isQuiet_watched {script : Script Key Memory α} (hquiet : script.IsQuiet) :
    script.watched.IsQuiet := by
  induction script with
  | done a => trivial
  | panic p => trivial
  | consult next ih =>
      intro watched
      exact ih watched.memory (hquiet watched.memory)
  | store memory next ih =>
      intro watched
      exact ih hquiet
  | call c next ih => exact hquiet.elim

theorem isQuiet_note {sightings : List (Sighting Key)}
    {next : Script Key (Watched Key Memory) α} (hquiet : next.IsQuiet) :
    (note sightings next).IsQuiet := by
  intro watched
  exact hquiet

theorem isQuiet_andThen {script : Script Key Memory α}
    {rest : α -> Script Key Memory β} (hscript : script.IsQuiet)
    (hrest : forall a, (rest a).IsQuiet) : (script.andThen rest).IsQuiet := by
  induction script with
  | done a => exact hrest a
  | panic p => trivial
  | consult next ih =>
      intro memory
      exact ih memory (hscript memory)
  | store memory next ih => exact ih hscript
  | call c next ih => exact hscript.elim

theorem isQuiet_noteLinked (artifact : Path) (result : Except LoadFailure Unit) :
    (noteLinked artifact result :
      Script Key (Watched Key Memory) (Except LoadFailure Unit)).IsQuiet := by
  cases result with
  | ok _ => exact isQuiet_note trivial
  | error failure => trivial

/-- A watched script ends as the script does, and its memory is that of the
script with what was written down before. -/
theorem eval_watched {script : Script Key Memory α} (hquiet : script.IsQuiet)
    (watched : Watched Key Memory) :
    script.watched.eval watched =
      ((script.eval watched.memory).1,
        { watched with memory := (script.eval watched.memory).2 }) := by
  induction script generalizing watched with
  | done a => rfl
  | panic p => rfl
  | consult next ih => exact ih watched.memory (hquiet watched.memory) watched
  | store memory next ih => exact ih hquiet { watched with memory }
  | call c next ih => exact hquiet.elim

theorem eval_andThen (script : Script Key Memory α)
    (rest : α -> Script Key Memory β) (memory : Memory) :
    (script.andThen rest).eval memory =
      match script.eval memory with
      | (.returned a, memory) => (rest a).eval memory
      | (.panicked p, memory) => (.panicked p, memory)
      | (.exhausted, memory) => (.exhausted, memory) := by
  induction script generalizing memory with
  | done a => rfl
  | panic p => rfl
  | consult next ih => exact ih memory memory
  | store stored next ih => exact ih stored
  | call c next ih => rfl

end Script

namespace Routines

/-- No routine calls back into the host. -/
structure Quiet (routines : Routines Key Memory) : Prop where
  compile : forall engine source, (routines.compile engine source).IsQuiet
  link : forall artifact, (routines.link artifact).IsQuiet
  observe : forall key path?, (routines.observe key path?).IsQuiet

theorem quiet_plain : plain.Quiet where
  compile _ _ := trivial
  link _ := trivial
  observe _ _ := trivial

/-- Every action lets the observers after it see the load too. -/
def PassOn (routines : Routines Key Memory) : Prop :=
  forall key path? memory,
    ((routines.observe key path?).eval memory).1 = .returned .passThrough

def LinkerAnswers (routines : Routines Key Memory) : Prop :=
  forall artifact memory, exists result,
    ((routines.link artifact).eval memory).1 = .returned result

theorem passOn_plain : plain.PassOn := by
  intro key path? memory
  rfl

theorem linkerAnswers_plain : plain.LinkerAnswers := by
  intro artifact memory
  exact ⟨.ok (), rfl⟩

variable {routines : Routines Key Memory}

theorem Quiet.watched (hquiet : routines.Quiet) : routines.watched.Quiet where
  compile engine source :=
    Script.isQuiet_note (Script.isQuiet_watched (hquiet.compile engine source))
  link artifact :=
    Script.isQuiet_andThen (Script.isQuiet_watched (hquiet.link artifact))
      (Script.isQuiet_noteLinked artifact)
  observe key path? :=
    Script.isQuiet_note (Script.isQuiet_watched (hquiet.observe key path?))

theorem eval_watched_compile (hquiet : routines.Quiet) (engine : Nat)
    (source : Path) (watched : Watched Key Memory) :
    (routines.watched.compile engine source).eval watched =
      (((routines.compile engine source).eval watched.memory).1,
        ⟨((routines.compile engine source).eval watched.memory).2,
          watched.seen ++ [.compiling engine source]⟩) :=
  Script.eval_watched (hquiet.compile engine source)
    (watched.see [.compiling engine source])

theorem eval_watched_observe (hquiet : routines.Quiet) (key : Key)
    (path? : Option Path) (watched : Watched Key Memory) :
    (routines.watched.observe key path?).eval watched =
      (((routines.observe key path?).eval watched.memory).1,
        ⟨((routines.observe key path?).eval watched.memory).2,
          watched.seen ++ [.visited key path?]⟩) :=
  Script.eval_watched (hquiet.observe key path?) (watched.see [.visited key path?])

def linkSightings (artifact : Path) :
    Ending (Except LoadFailure Unit) -> List (Sighting Key)
  | .returned (.ok ()) => [.linked artifact]
  | _ => []

theorem eval_watched_link (hquiet : routines.Quiet) (artifact : Path)
    (watched : Watched Key Memory) :
    (routines.watched.link artifact).eval watched =
      (((routines.link artifact).eval watched.memory).1,
        ⟨((routines.link artifact).eval watched.memory).2,
          watched.seen ++ linkSightings artifact
            ((routines.link artifact).eval watched.memory).1⟩) := by
  simp only [Routines.watched, Script.eval_andThen,
    Script.eval_watched (hquiet.link artifact)]
  rcases (routines.link artifact).eval watched.memory with ⟨ending, memory⟩
  cases ending with
  | returned result =>
      cases result with
      | ok _ => rfl
      | error failure => simp [Script.noteLinked, Script.eval, linkSightings]
  | panicked p => simp [linkSightings]
  | exhausted => simp [linkSightings]

end Routines
end CompileOnLoad
