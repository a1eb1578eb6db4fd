import CompileOnLoad.Panic
import CompileOnLoad.Regex.Compiled
import CompileOnLoad.Text.Quoted

/-!
# Exclusion patterns

A pattern says of a path whether it matches.  A pattern that cannot say so, because its
expression is malformed or its predicate fails, matches nothing.
-/

namespace CompileOnLoad

inductive PatternError where
  | invalidRegex (source message : String)
  | predicate (name message : String)
  deriving DecidableEq, Repr

def PatternError.message : PatternError -> String
  | invalidRegex source message => "invalid regex '" ++ source ++ "': " ++ message
  | predicate name message => "predicate '" ++ name ++ "' failed: " ++ message

structure Expression where
  source : String
  compiled : Except Regex.CompileError Regex.Expr
  compiled_eq : compiled = Regex.compile source

def Expression.ofSource (source : String) : Expression :=
  ⟨source, Regex.compile source, rfl⟩

abbrev Predicate := Path -> Except Panic (Except PatternError Bool)

inductive Pattern where
  /-- Some stretch of the text of the path matches the expression. -/
  | regex (expression : Expression)
  /-- The path lies under a directory. -/
  | under (directory : Path)
  /-- The path names a file. -/
  | exactly (file : Path)
  | predicate (name : String) (decide : Predicate)

namespace Pattern

def ofRegex (source : String) : Pattern := regex (Expression.ofSource source)

def panicMessage : Panic -> String
  | .text message => "panicked: " ++ message
  | .other => "panicked"

def evaluate (pattern : Pattern) (path : Path) : Except PatternError Bool :=
  match pattern with
  | regex e =>
    match e.compiled with
    | .ok compiled => .ok (Regex.isMatch compiled path.text)
    | .error error => .error (.invalidRegex e.source (error.message e.source))
  | under directory => .ok (path.isUnder directory)
  | exactly file => .ok (path.sameAs file)
  | predicate name decide =>
    match decide path with
    | .ok answer => answer
    | .error panic => .error (.predicate name (panicMessage panic))

def excludes (pattern : Pattern) (path : Path) : Bool :=
  match pattern.evaluate path with
  | .ok answer => answer
  | .error _ => false

def isInvalid : Pattern -> Bool
  | regex e => !e.compiled.isOk
  | _ => false

def display : Pattern -> String
  | regex e => "regex /" ++ e.source ++ "/"
  | under directory => "under " ++ directory.text
  | exactly file => "file " ++ file.text
  | predicate name _ => "predicate " ++ name

def shown : Pattern -> String
  | regex e =>
    "Regex \x7b source: " ++ quoteText e.source ++ ", valid: " ++
      (if e.compiled.isOk then "true" else "false") ++ " \x7d"
  | under directory => "Prefix(" ++ directory.quoted ++ ")"
  | exactly file => "Exact(" ++ file.quoted ++ ")"
  | predicate name _ => "Predicate \x7b name: " ++ quoteText name ++ " \x7d"

end Pattern
end CompileOnLoad
