import Conformance.Invocation
import Conformance.Tally

/-! # Report events

What a report is told about a run: its start, each judged fixture, and its summary.
-/

namespace Conformance

/-- Everything known about a fixture once it has been judged. -/
structure Judgement where
  fixture : Fixture
  expected : Expectation
  verdict : Verdict
  invocation : Invocation
deriving DecidableEq

/-- A run in numbers. -/
structure Summary where
  tally : Tally
  /-- How many fixtures there were, attempted or not. -/
  fixtureCount : Nat
  /-- Whether fixtures were left when the run stopped. -/
  stoppedEarly : Bool
  duration : Duration
deriving DecidableEq

/-- The exit code of a summarised run. -/
def Summary.exitCode (summary : Summary) : Nat := summary.tally.exitCode

/-- What a report is told, in the order of a run. -/
inductive Event where
  | started (fixtureCount : Nat)
  | judged (judgement : Judgement)
  | completed (summary : Summary)
deriving DecidableEq

/-- Whether a report hands everything on after an event.  It does once a fixture is
    judged and once the run is complete, but not at the start. -/
def Event.flushes : Event → Bool
  | .started _ => false
  | .judged _ | .completed _ => true

end Conformance
