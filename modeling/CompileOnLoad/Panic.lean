/-!
# Panics

A routine that a host supplies may break off instead of returning.
-/

namespace CompileOnLoad

/-- What a routine leaves behind when it breaks off: a text, or something else. -/
inductive Panic where
  | text (message : String)
  | other
  deriving DecidableEq, Repr

end CompileOnLoad
