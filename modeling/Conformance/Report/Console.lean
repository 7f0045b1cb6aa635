import Conformance.Report.Event
import Conformance.Text.Lines

/-! # Console reports

One line per fixture for people to read, the captured output of every fixture that did
not succeed beneath it, and a closing line with the counts.
-/

namespace Conformance

/-- How a console report looks. -/
structure Console where
  color : Bool := false
  verbose : Bool := false
deriving Repr, DecidableEq

namespace Console

/-! ## Colour -/

/-- The colours of a report. -/
inductive Color where
  | green
  | red
  | yellow
deriving Repr, DecidableEq

/-- The escape sequence that switches a colour on. -/
def Color.opening : Color → String
  | .green => "\x1b[1;32m"
  | .red => "\x1b[1;31m"
  | .yellow => "\x1b[1;33m"

/-- The escape sequence that switches colours off. -/
def closing : String := "\x1b[0m"

/-- A text in a colour, if the report is coloured at all. -/
def paint (console : Console) (color : Color) (text : String) : String :=
  if console.color then color.opening ++ text ++ closing else text

/-- The colour of a verdict. -/
def verdictColor : Verdict → Color
  | .succeeded => .green
  | .failed => .red
  | .timedOut => .yellow

/-- The colour of a closing line. -/
def tallyColor (tally : Tally) : Color := if tally.isClean then .green else .red

/-! ## Fixtures -/

/-- The word a fixture's line begins with. -/
def statusWord : Verdict → String
  | .succeeded => "Success:"
  | .failed => "Failed:"
  | .timedOut => "Timeout:"

/-- What a verbose report adds to a fixture's line. -/
def details (judgement : Judgement) : String :=
  " (" ++ judgement.expected.label ++ ", " ++ judgement.invocation.label ++ ", " ++
    toString judgement.invocation.duration.millis ++ "ms)"

/-- The line of a fixture. -/
def header (console : Console) (judgement : Judgement) : String :=
  console.paint (verdictColor judgement.verdict) (statusWord judgement.verdict) ++ " " ++
    judgement.fixture.id ++ (if console.verbose then details judgement else "") ++ "\n"

/-- Captured text, each line behind a tab. -/
def block (text : String) : String :=
  String.ofList ((Text.lines text.toList).flatMap fun line => '\t' :: line ++ ['\n'])

/-- What stands beneath the line of a fixture: nothing after a success, else what the
    subject wrote. -/
def captured (judgement : Judgement) : String :=
  if judgement.verdict.isSuccess then ""
  else if judgement.invocation.stdout.isEmpty && judgement.invocation.stderr.isEmpty then
    "\t(no output)\n"
  else block judgement.invocation.stdoutText ++ block judgement.invocation.stderrText

/-! ## Closing line -/

/-- The counts of a run in words; timeouts are mentioned only if there are any. -/
def counts (tally : Tally) : String :=
  toString tally.passed ++ " passed, " ++ toString tally.failed ++ " failed" ++
    (if tally.timedOut = 0 then "" else ", " ++ toString tally.timedOut ++ " timed out")

/-- The closing line of a run. -/
def closingLine (summary : Summary) : String :=
  counts summary.tally ++ " in " ++ summary.duration.showSeconds ++ "s" ++
    (if summary.stoppedEarly then " (stopped after first failure)" else "")

/-! ## The report -/

/-- What a console report writes for an event. -/
def render (console : Console) : Event → String
  | .started fixtureCount => if fixtureCount = 0 then "No fixtures collected\n" else ""
  | .judged judgement => console.header judgement ++ captured judgement
  | .completed summary =>
    if summary.tally.total = 0 then ""
    else "\n" ++ console.paint (tallyColor summary.tally) (closingLine summary) ++ "\n"

end Console

end Conformance
