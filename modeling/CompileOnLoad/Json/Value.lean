/-!
# JSON values and how they are written

A value is written compactly, without any white space, or laid out, with one item or member
to a line and two more blanks before each line of an inner value.
-/

namespace CompileOnLoad
namespace Json

inductive Value where
  | null
  | boolean (value : Bool)
  | number (written : List Char)
  | text (value : List Char)
  | list (items : List Value)
  | object (members : List (List Char × Value))
  deriving Repr

def controlEscape (c : Char) : List Char :=
  ['\\', 'u', '0', '0', Nat.digitChar (c.toNat / 16), Nat.digitChar (c.toNat % 16)]

def escape (c : Char) : List Char :=
  if c = '"' then ['\\', '"']
  else if c = '\\' then ['\\', '\\']
  else if c = '\x08' then ['\\', 'b']
  else if c = '\x0c' then ['\\', 'f']
  else if c = '\n' then ['\\', 'n']
  else if c = '\r' then ['\\', 'r']
  else if c = '\t' then ['\\', 't']
  else if c < ' ' then controlEscape c
  else [c]

def writeText (cs : List Char) : List Char :=
  '"' :: cs.flatMap escape ++ ['"']

def writeBoolean (b : Bool) : List Char :=
  if b then ['t', 'r', 'u', 'e'] else ['f', 'a', 'l', 's', 'e']

def writeNull : List Char := ['n', 'u', 'l', 'l']

def joined (separator : List Char) : List (List Char) -> List Char
  | [] => []
  | [text] => text
  | text :: next :: more => text ++ separator ++ joined separator (next :: more)

def newLine (level : Nat) : List Char :=
  '\n' :: List.replicate (2 * level) ' '

/-- Items between brackets, one to a line; nothing but the brackets if there are none. -/
def block (level : Nat) (start stop : Char) (items : List (List Char)) : List Char :=
  if items = [] then [start, stop]
  else
    start :: newLine (level + 1) ++ joined (',' :: newLine (level + 1)) items ++
      newLine level ++ [stop]

namespace Value

mutual

def compact : Value -> List Char
  | null => writeNull
  | boolean b => writeBoolean b
  | number written => written
  | text cs => writeText cs
  | list items => '[' :: joined [','] (compactItems items) ++ [']']
  | object members => '\x7b' :: joined [','] (compactMembers members) ++ ['\x7d']

def compactItems : List Value -> List (List Char)
  | [] => []
  | item :: rest => item.compact :: compactItems rest

def compactMembers : List (List Char × Value) -> List (List Char)
  | [] => []
  | (key, value) :: rest => (writeText key ++ ':' :: value.compact) :: compactMembers rest

end

mutual

def laidOut (level : Nat) : Value -> List Char
  | null => writeNull
  | boolean b => writeBoolean b
  | number written => written
  | text cs => writeText cs
  | list items => block level '[' ']' (laidOutItems (level + 1) items)
  | object members => block level '\x7b' '\x7d' (laidOutMembers (level + 1) members)

def laidOutItems (level : Nat) : List Value -> List (List Char)
  | [] => []
  | item :: rest => item.laidOut level :: laidOutItems level rest

def laidOutMembers (level : Nat) : List (List Char × Value) -> List (List Char)
  | [] => []
  | (key, value) :: rest =>
    (writeText key ++ ':' :: ' ' :: value.laidOut level) :: laidOutMembers level rest

end

end Value
end Json
end CompileOnLoad
