import CompileOnLoad.Log.Logger

/-!
# Log configurations

A configuration is a level and a list of outputs.  It is built from a preset by adding
outputs and by overriding it with settings, and then made into a logger.
-/

namespace CompileOnLoad
namespace Log

inductive Output where
  | standardError
  | file (path : String)
  | ring (capacity : Nat)
  | events
  deriving DecidableEq, Repr

structure Config where
  level : Level
  outputs : List Output := []
  deriving DecidableEq, Repr

def levelKey : String := "WARMLOAD_LOG"

def fileKey : String := "WARMLOAD_LOG_FILE"

namespace Config

def standard : Config := { level := .info }

def development : Config := ⟨.debug, [.standardError, .ring 10000]⟩

def embedded : Config := ⟨.info, [.events, .ring 1000]⟩

def quiet : Config := { level := .error }

def addOutput (config : Config) (output : Output) : Config :=
  { config with outputs := config.outputs ++ [output] }

def addOnce (config : Config) (output : Output) : Config :=
  if config.outputs.contains output then config else config.addOutput output

def withStandardError (config : Config) : Config := config.addOnce .standardError

def withEvents (config : Config) : Config := config.addOnce .events

def withFile (config : Config) (path : String) : Config := config.addOutput (.file path)

def withRing (config : Config) (capacity : Nat) : Config := config.addOutput (.ring capacity)

/-- Applies settings: a level that can be read replaces the level, and a file name that is
not empty adds a log file. -/
def withOverrides (config : Config) (lookup : String -> Option String) : Config :=
  let config := match (lookup levelKey).bind Level.parse? with
    | some level => { config with level }
    | none => config
  match lookup fileKey with
  | some path => if path = "" then config else config.withFile path
  | none => config

/-- Attaches the sink of an output to a logger, and gives the ring that is reported then: a
new ring takes the place of the one before it.  A file that cannot be opened is left out. -/
def install (index : Nat) (ring? : Option Nat) (output : Output) (logging : Logging) :
    Except Panic (Option Nat) × Logging :=
  match output with
  | .standardError => (.ok ring?, logging.attach index .standardError)
  | .events => (.ok ring?, logging.attach index .events)
  | .file path => (.ok ring?, logging.attachFile index (Path.ofString path))
  | .ring capacity =>
    match logging.addRing capacity with
    | .ok (ring, logging) => (.ok (some ring), logging.attach index (.ring ring))
    | .error panic => (.error panic, logging)

/-- Attaches the sinks of outputs, in their order.  If a ring cannot be made, the files before
it have been opened already, and the outputs after it are left. -/
def installAll (index : Nat) (ring? : Option Nat) :
    List Output -> Logging -> Except Panic (Option Nat) × Logging
  | [], logging => (.ok ring?, logging)
  | output :: rest, logging =>
    match install index ring? output logging with
    | (.ok ring?, logging) => installAll index ring? rest logging
    | (.error panic, logging) => (.error panic, logging)

/-- Makes the logger of a configuration, and gives the last of its rings. -/
def init (config : Config) (logging : Logging) : Except Panic (Nat × Option Nat) × Logging :=
  let (index, logging) := logging.add config.level
  let (ring?, logging) := installAll index none config.outputs logging
  (ring?.map (index, ·), logging)

end Config
end Log
end CompileOnLoad
