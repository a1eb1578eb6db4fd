import CompileOnLoad.Context
import CompileOnLoad.Failure
import CompileOnLoad.Log.Config

/-!
# Settings

Settings are a policy and a logger, held by their numbers.  A process may set its settings
once.
-/

namespace CompileOnLoad

structure Settings where
  policy : Nat
  logger : Nat
  deriving DecidableEq, Repr

namespace Settings

def ofPolicy (policy : Policy) (context : Context) : Settings × Context :=
  let (policy, context) := context.addPolicy policy
  let (logger, context) := context.addSilentLogger
  (⟨policy, logger⟩, context)

def standard (context : Context) : Settings × Context := ofPolicy Policy.standard context

def ofFile (path : Path) (context : Context) : Except Failure (Settings × Context) :=
  match Policy.ofFile context.logging.outlets.files path with
  | .ok policy => .ok (ofPolicy policy context)
  | .error error => .error (.config error)

def withLog (settings : Settings) (config : Log.Config) (context : Context) :
    Except Panic Settings × Context :=
  let (made, logging) := config.init context.logging
  (made.map fun (logger, _) => { settings with logger }, { context with logging })

def ofEnvironment (lookup : String -> Option String) (context : Context) :
    Except Panic Settings × Context :=
  let (settings, context) := standard context
  settings.withLog (Log.Config.embedded.withOverrides lookup) context

def shown (settings : Settings) (context : Context) : String :=
  "WarmloadConfig \x7b policy: " ++ (context.policy settings.policy).shownShared ++
    ", log_level: " ++ (context.logging.logger settings.logger).level.label ++ " \x7d"

end Settings

/-- What there is once in a process: its context, and its settings once they are set. -/
structure Globals where
  context : Context := {}
  settings : Option Settings := none

namespace Globals

def init (globals : Globals) (settings : Settings) : Except Failure Globals :=
  match globals.settings with
  | some _ => .error .alreadyInitialized
  | none => .ok { globals with settings := some settings }

def installWriter (globals : Globals) (minimum : Log.Level) (layout : Log.Layout) :
    Bool × Globals :=
  let logging := globals.context.logging
  match logging.outlets.subscriber with
  | .absent =>
    let outlets := { logging.outlets with subscriber := .writer minimum layout }
    let context := { globals.context with logging := { logging with outlets } }
    (true, { globals with context })
  | _ => (false, globals)

end Globals
end CompileOnLoad
