/-! # UTF-8 text and raw bytes

Captured output, paths and command line words are byte strings that need not be
UTF-8.  `pieces` cuts any byte string into characters and ill-formed parts; every
view of such bytes is read off that one cut:

* `decodeLossy` shows each ill-formed part as one U+FFFD,
* `decode?` accepts exactly the byte strings without an ill-formed part,
* `splitValid` separates the longest well-formed start from the rest.

An ill-formed part is a *maximal subpart*: the bytes of a character that was begun
correctly and then broken off, or a single byte that cannot begin a character.  The
scan is a fold with one byte of lookahead in its state, so it runs in constant
stack space and composes over concatenation.
-/

namespace Conformance.Utf8

/-- The bytes of a text. -/
def encode (text : String) : List UInt8 :=
  text.toList.flatMap String.utf8EncodeChar

/-! ## Cutting bytes into pieces -/

/-- A piece of a byte string: a character, or a maximal ill-formed part. -/
inductive Piece where
  | char (c : Char)
  | illFormed (bytes : List UInt8)
deriving Repr, DecidableEq

/-- A character under way: its bytes so far (latest first), the code point bits they
    carry, how many bytes are still missing, and the range the next one must lie in. -/
structure Begun where
  bytes : List UInt8
  bits : Nat
  missing : Nat
  lowest : UInt8
  highest : UInt8
deriving Repr, DecidableEq

/-- What a first byte announces: a whole character, the beginning of a longer one, or
    nothing a character can begin with. -/
inductive Lead where
  | ascii (c : Char)
  | begins (begun : Begun)
  | invalid
deriving Repr, DecidableEq

/-- Reads a first byte.  The narrowed ranges after `E0`, `ED`, `F0` and `F4` rule out
    overlong forms, surrogates and code points past U+10FFFF at the second byte. -/
def Lead.ofByte (b : UInt8) : Lead :=
  if b < 0x80 then .ascii (Char.ofNat b.toNat)
  else if b < 0xC2 then .invalid
  else if b < 0xE0 then .begins ⟨[b], b.toNat - 0xC0, 1, 0x80, 0xBF⟩
  else if b < 0xF0 then
    .begins ⟨[b], b.toNat - 0xE0, 2,
      if b = 0xE0 then 0xA0 else 0x80, if b = 0xED then 0x9F else 0xBF⟩
  else if b < 0xF5 then
    .begins ⟨[b], b.toNat - 0xF0, 3,
      if b = 0xF0 then 0x90 else 0x80, if b = 0xF4 then 0x8F else 0xBF⟩
  else .invalid

/-- The scanner's state: the pieces found so far (latest first) and the character
    under way, if any. -/
structure Scan where
  found : List Piece := []
  begun : Option Begun := none
deriving Repr, DecidableEq

/-- Reads a byte at which a new piece begins. -/
def Scan.start (found : List Piece) (b : UInt8) : Scan :=
  match Lead.ofByte b with
  | .ascii c => ⟨.char c :: found, none⟩
  | .begins begun => ⟨found, some begun⟩
  | .invalid => ⟨.illFormed [b] :: found, none⟩

/-- Whether a byte continues the character under way. -/
def Begun.accepts (begun : Begun) (b : UInt8) : Bool :=
  begun.lowest ≤ b && b ≤ begun.highest

/-- The code point bits after one more byte. -/
def Begun.extend (begun : Begun) (b : UInt8) : Nat :=
  begun.bits * 64 + (b.toNat - 0x80)

/-- Reads one byte. -/
def Scan.step (scan : Scan) (b : UInt8) : Scan :=
  match scan.begun with
  | none => Scan.start scan.found b
  | some begun =>
    if begun.accepts b then
      if begun.missing ≤ 1 then ⟨.char (Char.ofNat (begun.extend b)) :: scan.found, none⟩
      else ⟨scan.found, some ⟨b :: begun.bytes, begun.extend b, begun.missing - 1, 0x80, 0xBF⟩⟩
    else Scan.start (.illFormed begun.bytes.reverse :: scan.found) b

/-- The pieces after the last byte; a character still under way is ill-formed. -/
def Scan.finish (scan : Scan) : List Piece :=
  match scan.begun with
  | none => scan.found.reverse
  | some begun => (.illFormed begun.bytes.reverse :: scan.found).reverse

/-- Cuts a byte string into characters and maximal ill-formed parts. -/
def pieces (bytes : List UInt8) : List Piece :=
  (bytes.foldl Scan.step {}).finish

/-! ## Views of the pieces -/

/-- The character that stands for an ill-formed part. -/
def replacement : Char := Char.ofNat 0xFFFD

/-- How a piece is shown. -/
def Piece.shown : Piece → Char
  | .char c => c
  | .illFormed _ => replacement

/-- The character of a well-formed piece. -/
def Piece.char? : Piece → Option Char
  | .char c => some c
  | .illFormed _ => none

/-- The text of a byte string, with U+FFFD for each ill-formed part. -/
def decodeLossy (bytes : List UInt8) : String :=
  String.ofList ((pieces bytes).map Piece.shown)

/-- Whether a byte string is UTF-8. -/
def isValid (bytes : List UInt8) : Bool :=
  (pieces bytes).all fun piece => piece.char?.isSome

/-- The text of a byte string that is UTF-8. -/
def decode? (bytes : List UInt8) : Option String :=
  if isValid bytes then some (decodeLossy bytes) else none

/-- The characters before the first ill-formed part, and the bytes from there on. -/
def splitValid (bytes : List UInt8) : List Char × List UInt8 :=
  let chars := ((pieces bytes).takeWhile fun piece => piece.char?.isSome).map Piece.shown
  (chars, bytes.drop (chars.flatMap String.utf8EncodeChar).length)

end Conformance.Utf8
