import Conformance.Text.Utf8

/-! # Paths

A path is a byte string.  Only `/` separates components; nothing is normalised.
-/

namespace Conformance

/-- A file system path, kept byte for byte. -/
structure Path where
  bytes : List UInt8
deriving Repr, DecidableEq

namespace Path

/-- The byte that separates components. -/
def separator : UInt8 := 0x2F

/-- The path spelled by a text. -/
def ofString (text : String) : Path := ⟨Utf8.encode text⟩

/-- The text of a path that is UTF-8. -/
def text? (path : Path) : Option String := Utf8.decode? path.bytes

/-- How a path is shown in messages. -/
def display (path : Path) : String := Utf8.decodeLossy path.bytes

/-- Whether the path contains a NUL byte, which no file system call accepts. -/
def hasNul (path : Path) : Bool := path.bytes.contains 0

/-- The parts between separators.  A leading separator gives an empty first part, a
    trailing one an empty last part. -/
def parts (path : Path) : List (List UInt8) := path.bytes.splitOn separator

/-- Whether the path starts at the root. -/
def isAbsolute (path : Path) : Bool := path.bytes.head? == some separator

end Path

end Conformance
