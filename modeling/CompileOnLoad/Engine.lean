import CompileOnLoad.Host.Script

/-!
# Engines

An engine takes a loaded file, and if it is eligible compiles it and asks for the artifact
to be loaded when the host has time.  A compiler that fails or breaks off leaves a warning
and nothing else.
-/

namespace CompileOnLoad
namespace Engine

variable {Key Memory : Type}

def target : String := "warmload_core::engine"

def panicMessage : Panic -> String
  | .text message => message
  | .other => "non-string panic payload"

def reportErrors (logger : Nat) (errors : List (Nat × PatternError))
    (host : Host Key Memory) : Host Key Memory :=
  errors.foldl (fun host (index, error) =>
    host.log logger .warn target
      ("ignoring exclusion pattern #" ++ toString index ++ ": " ++ error.message)) host

/-- A file that is not eligible is counted, and reported if it has a path. -/
def skip (index : Nat) (path? : Option Path) (verdict : Verdict) (host : Host Key Memory) :
    Outcome × Host Key Memory :=
  let host := match path? with
    | some path =>
      host.log (host.engine index).logger .trace target
        ("Skipping " ++ path.text ++ ": " ++ verdict.display)
    | none => host
  (.skipped, host.count index .skipped)

def succeed (index : Nat) (source artifact : Path) (host : Host Key Memory) :
    Outcome × Host Key Memory :=
  let host := host.enqueue ⟨artifact, .deferred⟩
  let host := host.log (host.engine index).logger .debug target
    ("Scheduled deferred load of " ++ artifact.text ++ " for " ++ source.text)
  (.compiled artifact, host.count index (.compiled artifact))

def fail (index : Nat) (source : Path) (failure : CompileFailure) (host : Host Key Memory) :
    Outcome × Host Key Memory :=
  let host := host.log (host.engine index).logger .warn target
    ("Failed to compile " ++ source.text ++ ": " ++ failure.message)
  (.failed failure, host.count index (.failed failure))

def compileEligible (routines : Routines Key Memory) (perform : Performer Key Memory)
    (index : Nat) (source : Path) : Act Key Memory Outcome := fun host =>
  let logger := (host.engine index).logger
  let (ending, host) := (routines.compile index source).run perform (host.enterSpan logger)
  let host := host.leaveSpan logger
  match ending with
  | .returned (.ok artifact) => Act.ofPure (succeed index source artifact) host
  | .returned (.error failure) => Act.ofPure (fail index source failure) host
  | .panicked panic =>
    Act.ofPure (fail index source (.panicked source (panicMessage panic))) host
  | .exhausted => (.exhausted, host)

/-- Gives a loaded file to an engine.  The policy is read once, before anything is
reported. -/
def compile (routines : Routines Key Memory) (perform : Performer Key Memory) (index : Nat)
    (path? : Option Path) : Act Key Memory Outcome := fun host =>
  let logger := (host.engine index).logger
  let policy := host.policy (host.engine index).policy
  let judgement := judge path? policy host.suffixes
  let host := reportErrors logger judgement.errors host
  match path?, judgement.verdict with
  | some source, .eligible =>
    let progress : Log.Level := if policy.verbose then .info else .debug
    compileEligible routines perform index source
      (host.log logger progress target ("Compiling " ++ source.text))
  | path?, verdict => Act.ofPure (skip index path? verdict) host

end Engine
end CompileOnLoad
