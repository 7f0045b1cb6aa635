import Conformance.Fixture

/-! # Expectations and verdicts

What a fixture is expected to do to the subject, how that is read off its name, and
what an exit code makes of it.
-/

namespace Conformance

/-- What is expected of the subject on a fixture. -/
inductive Expectation where
  | rejected
  | accepted
deriving Repr, DecidableEq

/-- The judgement on one fixture. -/
inductive Verdict where
  | succeeded
  | failed
  | timedOut
deriving Repr, DecidableEq

/-- A rule that says what is expected of each fixture. -/
abbrev Convention := Fixture → Expectation

/-- How an expectation is written in reports and listings. -/
def Expectation.label : Expectation → String
  | .rejected => "expect-fail"
  | .accepted => "expect-pass"

/-- How a verdict is written in reports. -/
def Verdict.label : Verdict → String
  | .succeeded => "success"
  | .failed => "failed"
  | .timedOut => "timeout"

/-- Whether a verdict counts as a success. -/
def Verdict.isSuccess : Verdict → Bool
  | .succeeded => true
  | _ => false

namespace Convention

/-- The marker in use when none is given. -/
def defaultMarker : String := "fail"

/-- A fixture whose name contains the marker is expected to be rejected. -/
def marked (marker : String) : Convention := fun fixture =>
  if Fixture.isSelectedBy marker fixture then .rejected else .accepted

end Convention

/-- Judges a subject that ended by itself.  It accepts a fixture by exiting with code
    zero; any other code, and no code at all, rejects it. -/
def Verdict.ofExitCode (expected : Expectation) (exitCode : Option Int) : Verdict :=
  match expected, decide (exitCode = some 0) with
  | .accepted, true => .succeeded
  | .rejected, false => .succeeded
  | _, _ => .failed

end Conformance
