/-!
# UTF-8 with invalid stretches

The bytes of a file name need not be UTF-8.  Here a byte string is read, one byte at a time,
into pieces: decoded characters, and the maximal stretches that begin a character and do not
finish it.  Reading loses nothing, and it restarts at every byte that is not a continuation
byte, so the pieces of a concatenation are the pieces of its parts wherever the second part
begins a character.
-/

namespace CompileOnLoad
namespace Utf8

def encode (cs : List Char) : List UInt8 :=
  cs.flatMap String.utf8EncodeChar

/-- A piece of a byte string: a character, or bytes that begin one and do not finish it. -/
inductive Piece where
  | char (c : Char)
  | invalid (bytes : List UInt8)
  deriving DecidableEq, Repr

namespace Piece

def bytes : Piece -> List UInt8
  | char c => String.utf8EncodeChar c
  | invalid bs => bs

/-- The replacement character stands for an invalid stretch, once for the whole stretch. -/
def shown : Piece -> Char
  | char c => c
  | invalid _ => '\uFFFD'

def char? : Piece -> Option Char
  | char c => some c
  | invalid _ => none

end Piece

/-- A character whose first bytes have been read: what they are, the part of its number that
they give, how many bytes are still owed, and the range of the next one. -/
structure Unfinished where
  bytes : List UInt8
  value : Nat
  owed : Nat
  low : UInt8
  high : UInt8
  deriving DecidableEq, Repr

/-- The unfinished character that a lead byte begins.  The ranges of the second byte leave out
overlong forms, surrogates and numbers above the last character. -/
def lead? (b : UInt8) : Option Unfinished :=
  if 0xC2 ≤ b ∧ b ≤ 0xDF then some ⟨[b], b.toNat - 0xC0, 1, 0x80, 0xBF⟩
  else if b = 0xE0 then some ⟨[b], 0, 2, 0xA0, 0xBF⟩
  else if b = 0xED then some ⟨[b], 0xD, 2, 0x80, 0x9F⟩
  else if 0xE1 ≤ b ∧ b ≤ 0xEF then some ⟨[b], b.toNat - 0xE0, 2, 0x80, 0xBF⟩
  else if b = 0xF0 then some ⟨[b], 0, 3, 0x90, 0xBF⟩
  else if 0xF1 ≤ b ∧ b ≤ 0xF3 then some ⟨[b], b.toNat - 0xF0, 3, 0x80, 0xBF⟩
  else if b = 0xF4 then some ⟨[b], 4, 3, 0x80, 0x8F⟩
  else none

def Unfinished.push (u : Unfinished) (b : UInt8) : Unfinished :=
  ⟨u.bytes ++ [b], u.value * 64 + (b.toNat - 0x80), u.owed - 1, 0x80, 0xBF⟩

/-- Reads the bytes after those of `u?`, which is the character in progress, if there is
one. -/
def read : Option Unfinished -> List UInt8 -> List Piece
  | none, [] => []
  | some u, [] => [.invalid u.bytes]
  | u?, b :: rest =>
    let fresh :=
      if b < 0x80 then .char (Char.ofNat b.toNat) :: read none rest
      else
        match lead? b with
        | some v => read (some v) rest
        | none => .invalid [b] :: read none rest
    match u? with
    | none => fresh
    | some u =>
      if u.low ≤ b ∧ b ≤ u.high then
        if u.owed = 1 then .char (Char.ofNat (u.push b).value) :: read none rest
        else read (some (u.push b)) rest
      else .invalid u.bytes :: fresh

def pieces (bytes : List UInt8) : List Piece :=
  read none bytes

/-- The text of a byte string, with one replacement character for each invalid stretch. -/
def shown (bytes : List UInt8) : List Char :=
  (pieces bytes).map Piece.shown

def decode? (bytes : List UInt8) : Option (List Char) :=
  (pieces bytes).mapM Piece.char?

end Utf8
end CompileOnLoad
