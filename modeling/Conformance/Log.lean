import Conformance.Duration
import Conformance.Obstacle
import Conformance.Text.Quoted
import Conformance.Verdict

/-! # Log events

What the harness tells about its own work, besides the report.  An event is a value;
its level, its message and its fields are read off it.
-/

namespace Conformance

/-- How much an event matters. -/
inductive LogLevel where
  | debug
  | info
  | warn
deriving Repr, DecidableEq

/-- How a level is written. -/
def LogLevel.label : LogLevel → String
  | .debug => "DEBUG"
  | .info => "INFO"
  | .warn => "WARN"

/-- Something the harness noticed or did. -/
inductive LogEvent where
  /-- A listing gave this many fixtures. -/
  | discovered (count : Nat)
  /-- An entry of the fixture directory could not be read. -/
  | unreadableEntry (dir : Path) (cause : IoFault)
  /-- An entry of the fixture directory has a name that is not UTF-8. -/
  | nonUtf8Name (name : List UInt8)
  /-- The fixture directory could not be read, and the run goes on without fixtures. -/
  | noFixtures (error : ListingError)
  /-- A run begins. -/
  | startingRun (subject : Path) (fixtures : Nat)
  /-- The subject ended. -/
  | subjectFinished (exitCode : Option Int) (timedOut : Bool)
  /-- The subject is killed because its time is up. -/
  | timeoutExceeded (fixture : Fixture) (timeout : Duration)
  /-- A pipe of the subject was still open when output was no longer collected. -/
  | pipeStillOpen
  /-- A fixture has its verdict. -/
  | judged (fixture : Fixture) (expected : Expectation) (verdict : Verdict)
  /-- The run stops at a failure, with fixtures left. -/
  | stoppingEarly (remaining : Nat)
deriving DecidableEq

namespace LogEvent

/-- The level of an event. -/
def level : LogEvent → LogLevel
  | .unreadableEntry _ _ | .nonUtf8Name _ | .noFixtures _ | .timeoutExceeded _ _ => .warn
  | .startingRun _ _ | .stoppingEarly _ => .info
  | _ => .debug

/-- The message of an event. -/
def message : LogEvent → String
  | .discovered _ => "discovered fixtures"
  | .unreadableEntry dir cause =>
    "skipping unreadable entry in " ++ dir.display ++ ": " ++ cause.text
  | .nonUtf8Name name => "skipping non UTF-8 fixture name " ++ Text.quoted name
  | .noFixtures error => error.message ++ "; running no fixtures"
  | .startingRun _ _ => "starting run"
  | .subjectFinished _ _ => "subject finished"
  | .timeoutExceeded fixture timeout =>
    "fixture " ++ fixture.id ++ " exceeded " ++ timeout.showSeconds ++ "s; killing subject"
  | .pipeStillOpen => "output pipe still open after the subject ended; keeping partial output"
  | .judged _ _ _ => "fixture judged"
  | .stoppingEarly _ => "stopping after first failure"

/-- How an optional exit code is written in a field. -/
def exitCodeField : Option Int → String
  | some code => "Some(" ++ toString code ++ ")"
  | none => "None"

/-- The named values an event carries beside its message. -/
def fields : LogEvent → List (String × String)
  | .discovered count => [("count", toString count)]
  | .startingRun subject fixtures =>
    [("subject", subject.display), ("fixtures", toString fixtures)]
  | .subjectFinished exitCode timedOut =>
    [("exit_code", exitCodeField exitCode), ("timed_out", if timedOut then "true" else "false")]
  | .judged fixture expected verdict =>
    [("fixture", fixture.id), ("expected", expected.label), ("verdict", verdict.label)]
  | .stoppingEarly remaining => [("remaining", toString remaining)]
  | _ => []

end LogEvent

/-- A value and the events logged on the way to it. -/
structure Logged (α : Type) where
  logs : List LogEvent := []
  value : α

end Conformance
