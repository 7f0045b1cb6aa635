import Conformance.CommandLine.Misuse

/-! # Values of options

What a value given to an option has to look like, and the setting it stands for.
-/

namespace Conformance.CommandLine

/-! ## Numbers -/

/-- The value of a decimal digit. -/
def digit? (c : Char) : Option Nat :=
  if '0' ≤ c ∧ c ≤ '9' then some (c.toNat - '0'.toNat) else none

/-- Appends a digit to a number.  A character that is no digit is noticed before a
    number that grows too large. -/
def appendDigit (n : Nat) (c : Char) : Except NumberFault Nat :=
  match digit? c with
  | none => .error .invalidDigit
  | some digit =>
    if greatestNumber < n * 10 + digit then .error .tooLarge else .ok (n * 10 + digit)

/-- Reads a positive number in decimal, with or without a plus sign before it. -/
def readNumber (text : List Char) : Except NumberFault Nat :=
  let digits :=
    match text with
    | '+' :: d :: ds => d :: ds
    | cs => cs
  match digits with
  | [] => .error .empty
  | digits =>
    match digits.foldlM appendDigit 0 with
    | .error fault => .error fault
    | .ok n => if n = 0 then .error .zero else .ok n

/-! ## Values by kind -/

/-- Reads a path, which may not be empty. -/
def readPath (opt : Opt) (bytes : List UInt8) : Except Misuse Path :=
  if bytes.isEmpty then .error (.missingValue opt) else .ok ⟨bytes⟩

/-- Reads a text, which may be empty. -/
def readText (bytes : List UInt8) : Except Misuse String :=
  match Utf8.decode? bytes with
  | some text => .ok text
  | none => .error .invalidUtf8

/-- Reads one of several choices. -/
def readChoice {α : Type} (opt : Opt) (choices : List (String × α)) (bytes : List UInt8) :
    Except Misuse α :=
  if bytes.isEmpty then .error (.missingValue opt)
  else
    match (Utf8.decode? bytes).bind fun text => choices.lookup text with
    | some choice => .ok choice
    | none => .error (.invalidChoice opt (Utf8.decodeLossy bytes))

/-- Reads a number of seconds. -/
def readSeconds (opt : Opt) (bytes : List UInt8) : Except Misuse Duration :=
  match Utf8.decode? bytes with
  | none => .error .invalidUtf8
  | some text =>
    match readNumber text.toList with
    | .ok n => .ok (.ofSeconds n)
    | .error fault => .error (.invalidNumber opt text fault)

/-! ## Options -/

/-- What an option does once it is given. -/
inductive Action where
  /-- Changes a setting. -/
  | set (setting : Setting)
  /-- Takes a value, which changes a setting. -/
  | take (read : List UInt8 → Except Misuse Setting)
  | showHelp
  | showVersion

/-- What each option does. -/
def Opt.action : Opt → Action
  | .subject => .take fun bytes => (readPath .subject bytes).map .subject
  | .subjectArg => .take fun bytes => (readText bytes).map .subjectArg
  | .mode => .take fun bytes => (readText bytes).map .mode
  | .fixtures => .take fun bytes => (readPath .fixtures bytes).map .fixtureDir
  | .keyword => .take fun bytes => (readText bytes).map .keyword
  | .marker => .take fun bytes => (readText bytes).map .marker
  | .strictDiscovery => .set (.tolerance .strict)
  | .exitFirst => .set (.failFast true)
  | .timeout => .take fun bytes => (readSeconds .timeout bytes).map .timeout
  | .format => .take fun bytes => (readChoice .format formats bytes).map .format
  | .color => .take fun bytes => (readChoice .color colors bytes).map .coloring
  | .verbose => .set (.verbose true)
  | .help => .showHelp
  | .version => .showVersion

end Conformance.CommandLine
