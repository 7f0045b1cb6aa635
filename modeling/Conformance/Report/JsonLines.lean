import Conformance.Json
import Conformance.Report.Event
import Conformance.Version

/-! # Machine readable reports

Every event is one JSON object on a line of its own, its members in the order of their
keys.
-/

namespace Conformance.JsonLines

/-- The members of a judged fixture.  What the subject wrote is shown unless it
    succeeded. -/
def fixtureRecord (judgement : Judgement) : Json.Record :=
  [("duration_ms", .number judgement.invocation.duration.millisWord),
   ("event", .text "fixture"),
   ("exit_code", .number? judgement.invocation.exitCode),
   ("expected", .text judgement.expected.label),
   ("fixture", .text judgement.fixture.id),
   ("signal", .number? judgement.invocation.signal)] ++
  (if judgement.verdict.isSuccess then []
   else
    [("stderr", .text judgement.invocation.stderrText),
     ("stdout", .text judgement.invocation.stdoutText)]) ++
  [("timed_out", .bool judgement.invocation.timedOut),
   ("verdict", .text judgement.verdict.label)]

/-- The members of a summary. -/
def summaryRecord (summary : Summary) : Json.Record :=
  [("duration_ms", .number summary.duration.millisWord),
   ("event", .text "summary"),
   ("failed", .number summary.tally.failed),
   ("passed", .number summary.tally.passed),
   ("stopped_early", .bool summary.stoppedEarly),
   ("success", .bool summary.tally.isClean),
   ("timed_out", .number summary.tally.timedOut),
   ("total", .number summary.tally.total)]

/-- The members of an event. -/
def record : Event → Json.Record
  | .started fixtureCount =>
    [("event", .text "start"),
     ("fixtures", .number fixtureCount),
     ("harness_version", .text version)]
  | .judged judgement => fixtureRecord judgement
  | .completed summary => summaryRecord summary

/-- What a machine readable report writes for an event. -/
def render (event : Event) : String :=
  String.ofList (Json.write (record event) ++ ['\n'])

end Conformance.JsonLines
