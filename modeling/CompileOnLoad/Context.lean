import CompileOnLoad.Log.Logger
import CompileOnLoad.Policy.Basic

/-!
# Shared context

Policies and loggers are shared: who uses one holds its number, and sees every change.  A
record may change a policy, through a sink that removes malformed patterns.
-/

namespace CompileOnLoad

structure Context where
  logging : Log.Logging := {}
  policies : List Policy := []

namespace Context

def policy (context : Context) (handle : Nat) : Policy :=
  context.policies.getD handle Policy.empty

def updatePolicy (context : Context) (handle : Nat) (f : Policy -> Policy) : Context :=
  { context with policies := context.policies.modify handle f }

def addPolicy (context : Context) (policy : Policy) : Nat × Context :=
  (context.policies.length, { context with policies := context.policies ++ [policy] })

def addLogger (context : Context) (level : Log.Level) : Nat × Context :=
  let (index, logging) := context.logging.add level
  (index, { context with logging })

def addSilentLogger (context : Context) : Nat × Context :=
  context.addLogger Log.Logger.silent.level

/-- The effect of a delivery: on a policy, if the sink is one that removes malformed
patterns on a warning, and otherwise on what the sink writes to. -/
def receive (context : Context) (delivery : Log.Delivery) : Context :=
  match delivery.sink with
  | .pruner handle =>
    if delivery.record.level = .warn then context.updatePolicy handle Policy.prune
    else context
  | _ => { context with logging := context.logging.receive delivery }

def log (context : Context) (logger : Nat) (level : Log.Level) (target message : String) :
    Context :=
  (context.logging.deliveries logger level target message).foldl receive context

def enterSpan (context : Context) (logger : Nat) : Context :=
  { context with logging := context.logging.update logger Log.Logger.enter }

def leaveSpan (context : Context) (logger : Nat) : Context :=
  { context with logging := context.logging.update logger Log.Logger.leave }

/-- Puts the policy of a file in the place of another; if it is refused, nothing changes. -/
def reloadPolicy (context : Context) (handle : Nat) (path : Path) :
    Except ConfigError Unit × Context :=
  match Policy.ofFile context.logging.outlets.files path with
  | .ok policy => (.ok (), context.updatePolicy handle fun _ => policy)
  | .error error => (.error error, context)

end Context
end CompileOnLoad
