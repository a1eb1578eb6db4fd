/-!
# Lines of a text
-/

namespace CompileOnLoad

/-- The lines of a text.  A line feed at the end begins no other line, and a carriage return
before a line feed is no part of the line. -/
def linesFrom (line : List Char) : List Char -> List (List Char)
  | [] => if line = [] then [] else [line.reverse]
  | c :: rest =>
    if c = '\n' then
      let ended := match line with
        | '\r' :: before => before
        | _ => line
      ended.reverse :: linesFrom [] rest
    else linesFrom (c :: line) rest

def linesOf (cs : List Char) : List (List Char) := linesFrom [] cs

end CompileOnLoad
