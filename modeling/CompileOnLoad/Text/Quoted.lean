import CompileOnLoad.Path
import CompileOnLoad.Unicode.Property

/-!
# Quoted text

Diagnostic output shows strings and paths in double quotes.  Quotes, backslashes and the
usual control characters have two-character escapes; characters that cannot be seen, or that
would attach themselves to the character before, are shown by number; invalid bytes of a
path are shown one by one.
-/

namespace CompileOnLoad
namespace Quoted

/-- Characters shown by number: control, format, private-use and unassigned characters,
separators other than the blank, and characters that extend the one before. -/
def hiddenChars : CharSet :=
  let categories := Unicode.Table.unionOf Unicode.generalCategories
    ["cc", "cf", "cn", "co", "zl", "zp", "zs"]
  let extending := Unicode.Table.unionOf Unicode.binaryProperties ["graphemeextend"]
  (categories.union extending).diff (CharSet.single ' ')

def hexDigits (n : Nat) : List Char :=
  Nat.toDigits 16 n

def escape (c : Char) : List Char :=
  if c = '"' ∨ c = '\\' then ['\\', c]
  else if c = '\n' then ['\\', 'n']
  else if c = '\r' then ['\\', 'r']
  else if c = '\t' then ['\\', 't']
  else if c = '\x00' then ['\\', '0']
  else if ' ' ≤ c ∧ c ≤ '~' then [c]
  else if hiddenChars.contains c then
    ['\\', 'u', '\x7b'] ++ hexDigits c.toNat ++ ['\x7d']
  else [c]

def escapeByte (b : UInt8) : List Char :=
  let digit (n : Nat) : Char := (Nat.digitChar n).toUpper
  ['\\', 'x', digit (b.toNat / 16), digit (b.toNat % 16)]

def escapePiece : Utf8.Piece -> List Char
  | .char c => escape c
  | .invalid bytes => bytes.flatMap escapeByte

end Quoted

def quoteText (s : String) : String :=
  String.ofList ('"' :: s.toList.flatMap Quoted.escape ++ ['"'])

def Path.quoted (p : Path) : String :=
  String.ofList ('"' :: (Utf8.pieces p.bytes).flatMap Quoted.escapePiece ++ ['"'])

end CompileOnLoad
