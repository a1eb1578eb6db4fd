import CompileOnLoad.Interceptor
import CompileOnLoad.Settings

/-!
# The facade

A host that uses one interceptor with given settings works through the facade, which also
reports the malformed patterns of the policy and what a sweep came to.
-/

namespace CompileOnLoad

structure Facade where
  interceptor : Nat
  settings : Settings
  deriving DecidableEq, Repr

namespace Facade

variable {Key Memory : Type}

def target : String := "warmload_api"

def ofSettings (settings : Settings) (host : Host Key Memory) : Facade × Host Key Memory :=
  let (engine, host) := host.addEngine settings.policy settings.logger
  let (interceptor, host) := host.addInterceptor engine settings.logger
  (⟨interceptor, settings⟩, host)

def isActive (facade : Facade) (host : Host Key Memory) : Bool :=
  (host.interceptor facade.interceptor).activation.isActive

def engine (facade : Facade) (host : Host Key Memory) : Nat :=
  (host.interceptor facade.interceptor).engine

def reportInvalid (facade : Facade) (host : Host Key Memory) : Host Key Memory :=
  (host.policy facade.settings.policy).invalidPatterns.foldl (fun host pattern =>
    host.log facade.settings.logger .warn target
      ("Exclusion pattern " ++ pattern.display ++ " is invalid and will never match")) host

def enable (routines : Routines Key Memory) (perform : Performer Key Memory)
    (facade : Facade) : Act Key Memory (Option SweepReport) := fun host =>
  let host := if facade.isActive host then host else facade.reportInvalid host
  ((Interceptor.enable routines perform facade.interceptor).andThen fun report? host =>
    match report? with
    | none => (.returned none, host)
    | some report =>
      (.returned (some report), host.log facade.settings.logger .info target
        ("Compiled " ++ toString report.tally.compiled ++ " of " ++ toString report.visited ++
          " previously loaded files"))) host

def disable (facade : Facade) (host : Host Key Memory) : Bool × Host Key Memory :=
  Interceptor.disable facade.interceptor host

/-- Puts the policy of a file in the place of the policy in use and reports it; if it is
refused, nothing changes. -/
def reloadPolicy (facade : Facade) (path : Path) (host : Host Key Memory) :
    Except Failure Unit × Host Key Memory :=
  match host.reloadPolicy facade.settings.policy path with
  | (.error error, host) => (.error (.config error), host)
  | (.ok (), host) =>
    let host := host.log facade.settings.logger .info target
      ("Policy reloaded from " ++ path.text)
    (.ok (), facade.reportInvalid host)

def isEligible (facade : Facade) (path : Path) (host : Host Key Memory) : Bool :=
  host.isEligible (facade.engine host) (some path)

def compile (routines : Routines Key Memory) (perform : Performer Key Memory)
    (facade : Facade) (path : Path) : Act Key Memory Outcome := fun host =>
  Engine.compile routines perform (facade.engine host) (some path) host

def tally (facade : Facade) (host : Host Key Memory) : Tally :=
  (host.engine (facade.engine host)).tally

def shown (facade : Facade) (host : Host Key Memory) : String :=
  "Warmload \x7b interceptor: " ++ host.interceptorShown facade.interceptor ++ " \x7d"

end Facade
end CompileOnLoad
