/-! # JSON records

Machine readable reports consist of flat JSON objects, one to a line.  A record lists
its members in the order in which they are written; nothing is put between the tokens.
-/

namespace Conformance.Json

/-- The values a member can have. -/
inductive Scalar where
  | null
  | bool (value : Bool)
  | number (value : Int)
  | text (value : String)
deriving Repr, DecidableEq

/-- A flat object: keys with their values, in the order written. -/
abbrev Record := List (String × Scalar)

/-- An optional number; none is null. -/
def Scalar.number? : Option Int → Scalar
  | some n => .number n
  | none => .null

/-! ## Written form -/

/-- The written form of a character inside a string.  Quotes, backslashes and control
    characters are escaped, everything else stands for itself. -/
def escapeChar (c : Char) : List Char :=
  if c = '"' then ['\\', '"']
  else if c = '\\' then ['\\', '\\']
  else if c = '\n' then ['\\', 'n']
  else if c = '\r' then ['\\', 'r']
  else if c = '\t' then ['\\', 't']
  else if c = '\x08' then ['\\', 'b']
  else if c = '\x0c' then ['\\', 'f']
  else if c.toNat < 0x20 then
    ['\\', 'u', '0', '0', Nat.digitChar (c.toNat / 16), Nat.digitChar (c.toNat % 16)]
  else [c]

/-- The written form of a string. -/
def writeText (text : String) : List Char :=
  '"' :: text.toList.flatMap escapeChar ++ ['"']

/-- The written form of a value. -/
def Scalar.write : Scalar → List Char
  | .null => "null".toList
  | .bool true => "true".toList
  | .bool false => "false".toList
  | .number n => (toString n).toList
  | .text value => writeText value

/-- The written form of a member. -/
def writeMember (entry : String × Scalar) : List Char :=
  writeText entry.1 ++ ':' :: entry.2.write

/-- The written form of a record. -/
def write (record : Record) : List Char :=
  '\x7b' :: (List.intercalate [','] (record.map writeMember)) ++ ['\x7d']

end Conformance.Json
