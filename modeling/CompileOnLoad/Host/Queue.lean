import CompileOnLoad.Path

/-!
# Queued loads

Artifacts wait to be loaded.  An urgent request goes before all others, an ordinary one
behind them.
-/

namespace CompileOnLoad

inductive Urgency where
  | immediate
  | deferred
  deriving DecidableEq, Repr

def Urgency.label : Urgency -> String
  | immediate => "Immediate"
  | deferred => "Deferred"

structure Request where
  artifact : Path
  urgency : Urgency
  deriving DecidableEq, Repr

/-- The requests in the order of execution. -/
abbrev Queue := List Request

def Queue.add (queue : Queue) (request : Request) : Queue :=
  match request.urgency with
  | .immediate => request :: queue
  | .deferred => queue ++ [request]

end CompileOnLoad
