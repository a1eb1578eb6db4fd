import CompileOnLoad.Regex.Meaning
import CompileOnLoad.Regex.Parser
import CompileOnLoad.Regex.Search
import CompileOnLoad.Regex.Size

/-!
# Compiled expressions

A written expression is compiled to what it stands for, or refused with a message.
-/

namespace CompileOnLoad
namespace Regex

inductive CompileError where
  | malformed (fault : Fault)
  | tooLarge
  deriving DecidableEq, Repr

def CompileError.message (source : String) : CompileError -> String
  | malformed fault => fault.message source
  | tooLarge => "Compiled regex exceeds size limit of " ++ toString sizeLimit ++ " bytes."

def compile (source : String) : Except CompileError Expr :=
  match parse source.toList with
  | .error fault => .error (.malformed fault)
  | .ok tree =>
    match tree.resolve {} with
    | .error fault => .error (.malformed fault)
    | .ok (e, _) => if sizeLimit < e.size then .error .tooLarge else .ok e

def isMatch (e : Expr) (text : String) : Bool :=
  e.occursIn text.toList

end Regex
end CompileOnLoad
