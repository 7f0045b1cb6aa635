import Conformance.CommandLine.Opt
import Conformance.Text.Lines
import Conformance.Text.Terminal

/-! # Misuse of the command line

Everything that can be wrong with a command line, and the line that says so.
-/

namespace Conformance.CommandLine

/-- Why a text is no acceptable number. -/
inductive NumberFault where
  | empty
  | invalidDigit
  | tooLarge
  | zero
deriving Repr, DecidableEq

/-- The greatest number an option takes. -/
def greatestNumber : Nat := Nat.pow 2 64 - 1

/-- The fault in words. -/
def NumberFault.text : NumberFault → String
  | .empty => "cannot parse integer from empty string"
  | .invalidDigit => "invalid digit found in string"
  | .tooLarge => "number too large to fit in target type"
  | .zero => "0 is not in 1.." ++ toString greatestNumber

/-- What is wrong with a command line. -/
inductive Misuse where
  /-- An option or a word that has no place here, as it is shown. -/
  | unknownArgument (shown : String)
  /-- A word where a command should stand. -/
  | unknownCommand (word : String)
  /-- An option that has to be given. -/
  | missingOption (opt : Opt)
  /-- An option given again. -/
  | repeatedOption (opt : Opt)
  /-- A value for an option that takes none. -/
  | unexpectedValue (opt : Opt) (value : String)
  /-- No value, or an empty one, for an option that needs it. -/
  | missingValue (opt : Opt)
  /-- A value that is not among the choices. -/
  | invalidChoice (opt : Opt) (value : String)
  /-- A value that is no acceptable number. -/
  | invalidNumber (opt : Opt) (value : String) (fault : NumberFault)
  /-- A value that should be text and is not UTF-8. -/
  | invalidUtf8
deriving Repr, DecidableEq

namespace Misuse

/-- What is wrong, in words.  What the user wrote is shown without control sequences. -/
def description : Misuse → String
  | .unknownArgument shown => "unexpected argument '" ++ Text.Terminal.plain shown ++ "' found"
  | .unknownCommand word => "unrecognized subcommand '" ++ Text.Terminal.plain word ++ "'"
  | .missingOption _ => "the following required arguments were not provided:"
  | .repeatedOption opt => "the argument '" ++ opt.label ++ "' cannot be used multiple times"
  | .unexpectedValue opt value =>
    "unexpected value '" ++ Text.Terminal.plain value ++ "' for '" ++ opt.label ++
      "' found; no more were expected"
  | .missingValue opt =>
    "a value is required for '" ++ opt.label ++ "' but none was supplied"
  | .invalidChoice opt value =>
    "invalid value '" ++ Text.Terminal.plain value ++ "' for '" ++ opt.label ++ "'"
  | .invalidNumber opt value fault =>
    "invalid value '" ++ Text.Terminal.plain value ++ "' for '" ++ opt.label ++ "': " ++ fault.text
  | .invalidUtf8 => "invalid UTF-8 was detected in one or more arguments"

/-- The line that says what is wrong.  It ends where what the user wrote begins a new
    one. -/
def message (misuse : Misuse) : String :=
  String.ofList ((Text.lines ("error: " ++ misuse.description).toList).headD [])

/-- The argument the misuse is about. -/
def argument? : Misuse → Option String
  | .unknownArgument shown => some shown
  | .missingOption opt | .repeatedOption opt | .unexpectedValue opt _ | .missingValue opt
  | .invalidChoice opt _ | .invalidNumber opt _ _ => some opt.label
  | .unknownCommand _ | .invalidUtf8 => none

/-- The value the misuse is about. -/
def value? : Misuse → Option String
  | .unexpectedValue _ value | .invalidChoice _ value | .invalidNumber _ value _ => some value
  | .missingValue _ => some ""
  | _ => none

end Misuse

end Conformance.CommandLine
