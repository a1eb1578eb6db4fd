import CompileOnLoad.Decimal.Shortest
import CompileOnLoad.Text.Quoted

/-!
# Faults of JSON documents

A fault says what is wrong with a document and where.  The place is given by what was left
of the document when the fault was noticed, and by the number of bytes of it that still
count as read.
-/

namespace CompileOnLoad
namespace Json

/-- A number as a document gives it: an integer of at most 64 bits, or a binary value with a
sign. -/
inductive Number where
  | integer (value : Int)
  | binary (negative : Bool) (value : Decimal.Binary64)
  deriving DecidableEq, Repr

inductive Found where
  | null
  | boolean (value : Bool)
  | number (value : Number)
  | text (value : List Char)
  | list
  | object
  deriving DecidableEq, Repr

inductive Cause where
  | endInValue
  | endInText
  | endInList
  | endInObject
  | valueExpected
  | wordExpected
  | colonExpected
  | objectCommaExpected
  | listCommaExpected
  | trailingComma
  | trailingCharacters
  | keyNotText
  | invalidEscape
  | invalidNumber
  | numberOutOfRange
  | loneSurrogate
  | unfinishedEscape
  | controlCharacter
  | unknownField (name : String) (known : List String)
  | duplicateField (name : String)
  | wrongType (found : Found) (expected : String)
  deriving DecidableEq, Repr

/-- A fault of a document: `rest` had not been read, but the first `ahead` bytes of it count
as read. -/
structure Fault where
  cause : Cause
  rest : List Char
  ahead : Nat := 0
  deriving DecidableEq, Repr

abbrev Reading (α : Type) := Except Fault (α × List Char)

def ticked (s : String) : String := "\x60" ++ s ++ "\x60"

def Number.shown : Number -> String
  | integer value => "integer " ++ ticked (toString value)
  | binary negative value => "floating point " ++ ticked (value.render negative)

def Found.shown : Found -> String
  | null => "null"
  | boolean value => "boolean " ++ ticked (if value then "true" else "false")
  | number value => value.shown
  | text value => "string " ++ quoteText (String.ofList value)
  | list => "sequence"
  | object => "map"

def Cause.message : Cause -> String
  | endInValue => "EOF while parsing a value"
  | endInText => "EOF while parsing a string"
  | endInList => "EOF while parsing a list"
  | endInObject => "EOF while parsing an object"
  | valueExpected => "expected value"
  | wordExpected => "expected ident"
  | colonExpected => "expected " ++ ticked ":"
  | objectCommaExpected => "expected " ++ ticked "," ++ " or " ++ ticked "\x7d"
  | listCommaExpected => "expected " ++ ticked "," ++ " or " ++ ticked "]"
  | trailingComma => "trailing comma"
  | trailingCharacters => "trailing characters"
  | keyNotText => "key must be a string"
  | invalidEscape => "invalid escape"
  | invalidNumber => "invalid number"
  | numberOutOfRange => "number out of range"
  | loneSurrogate => "lone leading surrogate in hex escape"
  | unfinishedEscape => "unexpected end of hex escape"
  | controlCharacter => "control character (\\u0000-\\u001F) found while parsing a string"
  | unknownField name known =>
    "unknown field " ++ ticked name ++ ", expected one of " ++
      String.intercalate ", " (known.map ticked)
  | duplicateField name => "duplicate field " ++ ticked name
  | wrongType found expected => "invalid type: " ++ found.shown ++ ", expected " ++ expected

/-- The line and the column of the place after some bytes: lines count from one, columns are
the bytes of the line that were read. -/
def placeAfter (bytes : List UInt8) : Nat × Nat :=
  let newline : UInt8 := 0x0A
  (1 + bytes.count newline, (bytes.reverse.takeWhile (· ≠ newline)).length)

def Fault.offset (fault : Fault) (document : List UInt8) : Nat :=
  document.length - (Utf8.encode fault.rest).length + fault.ahead

def Fault.message (fault : Fault) (document : List Char) : String :=
  let bytes := Utf8.encode document
  let (line, column) := placeAfter (bytes.take (fault.offset bytes))
  fault.cause.message ++ " at line " ++ toString line ++ " column " ++ toString column

end Json
end CompileOnLoad
