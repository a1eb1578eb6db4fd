import CompileOnLoad.Path

/-!
# Failures of compiling and loading
-/

namespace CompileOnLoad

inductive CompileFailure where
  | rejected (path : Path) (message : String)
  | io (path : Path) (message : String)
  | panicked (path : Path) (message : String)
  deriving DecidableEq, Repr

namespace CompileFailure

def path : CompileFailure -> Path
  | rejected path _ => path
  | io path _ => path
  | panicked path _ => path

def message : CompileFailure -> String
  | rejected path message => "compiler rejected '" ++ path.text ++ "': " ++ message
  | io path message => "I/O error while compiling '" ++ path.text ++ "': " ++ message
  | panicked path message => "compiler panicked on '" ++ path.text ++ "': " ++ message

end CompileFailure

structure LoadFailure where
  artifact : Path
  reason : String
  deriving DecidableEq, Repr

def LoadFailure.message (failure : LoadFailure) : String :=
  "failed to load artifact '" ++ failure.artifact.text ++ "': " ++ failure.reason

end CompileOnLoad
