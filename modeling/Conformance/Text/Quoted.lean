import Conformance.Text.Invisible
import Conformance.Text.Utf8

/-! # Quoted byte strings

The written form of a byte string in log messages: between double quotes, with the
characters that would be lost or misread written by escapes, and the bytes that are no
character by their value.
-/

namespace Conformance.Text

/-- The hexadecimal digits of a number, without leading zeros. -/
def hexDigits (n : Nat) : List Char := Nat.toDigits 16 n

/-- The two hexadecimal digits of a byte, in capitals. -/
def byteDigits (b : UInt8) : List Char :=
  [b.toNat / 16, b.toNat % 16].map fun digit => (Nat.digitChar digit).toUpper

/-- The written form of a character. -/
def quotedChar (c : Char) : List Char :=
  if c = '\x00' then ['\\', '0']
  else if c = '\t' then ['\\', 't']
  else if c = '\r' then ['\\', 'r']
  else if c = '\n' then ['\\', 'n']
  else if c = '\\' ∨ c = '"' then ['\\', c]
  else if isInvisible c then ['\\', 'u', '\x7b'] ++ hexDigits c.toNat ++ ['\x7d']
  else [c]

/-- The written form of a piece; an ill-formed one is written byte by byte. -/
def quotedPiece : Utf8.Piece → List Char
  | .char c => quotedChar c
  | .illFormed bytes => bytes.flatMap fun b => '\\' :: 'x' :: byteDigits b

/-- The written form of a byte string. -/
def quoted (bytes : List UInt8) : String :=
  String.ofList ('"' :: (Utf8.pieces bytes).flatMap quotedPiece ++ ['"'])

end Conformance.Text
