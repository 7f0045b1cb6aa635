import Conformance.Settings

/-! # Options of the command line

The options of the program and of its commands, as a table: how each is spelled, what
it takes, and what its help says.
-/

namespace Conformance.CommandLine

/-- The options, of whichever command. -/
inductive Opt where
  | subject
  | subjectArg
  | mode
  | fixtures
  | keyword
  | marker
  | strictDiscovery
  | exitFirst
  | timeout
  | format
  | color
  | verbose
  | help
  | version
deriving Repr, DecidableEq

/-- What the table says about an option. -/
structure OptSpec where
  /-- The name after `--`. -/
  long : Option String := none
  /-- The letter after `-`. -/
  short : Option Char := none
  /-- What stands for the value in help and messages; a flag takes none. -/
  valueName : Option String := none
  /-- What the option is for. -/
  about : String
  /-- The value in use when the option is not given. -/
  default : Option String := none
  /-- The values to choose from, each with its explanation. -/
  choices : List (String × Option String) := []
  /-- Whether the option may be given more than once. -/
  repeatable : Bool := false
  /-- Whether the word after the option is its value whatever it looks like. -/
  takesAnyWord : Bool := false

/-- The formats a report can be asked for. -/
def formats : List (String × ReportForm) := [("console", .console), ("json", .json)]

/-- The choices of colour. -/
def colors : List (String × Coloring) :=
  [("auto", .auto), ("always", .always), ("never", .never)]

namespace Opt

/-- The table of options. -/
def spec : Opt → OptSpec
  | .subject =>
    { long := some "subject", valueName := some "PATH", about := "Subject program to test" }
  | .subjectArg =>
    { long := some "subject-arg", valueName := some "ARG"
      about := "Argument placed before the mode argument (repeatable)"
      repeatable := true, takesAnyWord := true }
  | .mode =>
    { long := some "mode", valueName := some "ARG"
      about := "Mode argument passed to the subject before each fixture"
      default := some "test" }
  | .fixtures =>
    { long := some "fixtures", valueName := some "DIR"
      about := "Directory holding the fixtures", default := some "tests" }
  | .keyword =>
    { short := some 'k', valueName := some "EXPR"
      about := "Only use fixtures whose name contains EXPR" }
  | .marker =>
    { long := some "marker", valueName := some "STR"
      about := "Substring marking a fixture name as expected to fail"
      default := some Convention.defaultMarker }
  | .strictDiscovery =>
    { long := some "strict-discovery"
      about := "Treat a missing or unreadable fixture directory as an error" }
  | .exitFirst =>
    { long := some "exitfirst", short := some 'x', about := "Stop on first failure" }
  | .timeout =>
    { long := some "timeout", valueName := some "SECS"
      about := "Kill the subject after SECS seconds and report a timeout" }
  | .format =>
    { long := some "format", valueName := some "FORMAT", about := "Report format"
      default := some "console"
      choices :=
        [("console", some "Human-readable lines"), ("json", some "One JSON object per line")] }
  | .color =>
    { long := some "color", valueName := some "COLOR"
      about := "When to colorize console output", default := some "auto"
      choices :=
        [("auto", some "Colorize only when stdout is a terminal"), ("always", none),
         ("never", none)] }
  | .verbose => { long := some "verbose", short := some 'v', about := "Verbose output" }
  | .help => { long := some "help", short := some 'h', about := "Print help" }
  | .version => { long := some "version", short := some 'V', about := "Print version" }

/-- Whether the option is followed by a value. -/
def takesValue (opt : Opt) : Bool := opt.spec.valueName.isSome

/-- The value part of the option as it is shown. -/
def valueLabel (opt : Opt) : String :=
  match opt.spec.valueName with
  | some name => " <" ++ name ++ ">"
  | none => ""

/-- The option as messages show it. -/
def label (opt : Opt) : String :=
  match opt.spec.long, opt.spec.short with
  | some long, _ => "--" ++ long ++ opt.valueLabel
  | none, some short => "-" ++ short.toString ++ opt.valueLabel
  | none, none => opt.valueLabel

end Opt

/-- Where options are read: before any command, or after one. -/
inductive Scope where
  | program
  | run
  | list
deriving Repr, DecidableEq

namespace Scope

/-- The options of a scope, in the order of its help. -/
def options : Scope → List Opt
  | .program => [.help, .version]
  | .run =>
    [.subject, .subjectArg, .mode, .fixtures, .keyword, .marker, .strictDiscovery, .exitFirst,
     .timeout, .format, .color, .verbose, .help]
  | .list => [.fixtures, .keyword, .marker, .strictDiscovery, .help]

/-- The option of a scope with a long name. -/
def long? (scope : Scope) (name : String) : Option Opt :=
  scope.options.find? fun opt => opt.spec.long == some name

/-- The option of a scope with a letter. -/
def short? (scope : Scope) (letter : Char) : Option Opt :=
  scope.options.find? fun opt => opt.spec.short == some letter

end Scope

/-- The commands a user can name, with what they are for. -/
def commands : List (String × String) :=
  [("run", "Invoke the subject on every fixture and report verdicts"),
   ("list", "List discovered fixtures with their expected outcome"),
   ("help", "Print this message or the help of the given subcommand(s)")]

end Conformance.CommandLine
