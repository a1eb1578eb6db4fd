import CompileOnLoad.Host.Failure
import CompileOnLoad.Policy.Basic

/-!
# Failures that a host sees

A host sees the refusal of a policy, the failure of a load, and the second try to set what
is set once.  Failures of the compiler are not among them: they are reported as records and
go no further.
-/

namespace CompileOnLoad

inductive Failure where
  | config (error : ConfigError)
  | reload (failure : LoadFailure)
  | alreadyInitialized
  deriving DecidableEq, Repr

namespace Failure

def cause? : Failure -> Option String
  | config error => some error.message
  | reload failure => some failure.message
  | alreadyInitialized => none

def message : Failure -> String
  | config error => "Config error: " ++ error.message
  | reload failure => "Reload error: " ++ failure.message
  | alreadyInitialized => "global configuration already initialized"

def phase : Failure -> String
  | config _ => "config"
  | reload _ => "reload"
  | alreadyInitialized => "init"

end Failure
end CompileOnLoad
