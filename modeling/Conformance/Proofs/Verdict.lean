import Conformance.Invocation

/-! # What verdicts say

A fixture succeeds if the subject ended by itself and did what the name of the fixture asks
for.  The name asks for a rejection if the marker stands somewhere in it, and the subject
accepts by exiting with code zero; a success is that exactly one of the two is the case.
-/

namespace Conformance

/-! ## Markers -/

theorem Text.containsChars_iff {word text : List Char} :
    containsChars word text = true ↔ word <:+: text := by
  induction text with
  | nil => simp [containsChars]
  | cons c rest ih =>
    rw [containsChars, Bool.or_eq_true, List.isPrefixOf_iff_prefix, ih, List.infix_cons_iff]

theorem Convention.marked_eq_rejected {marker : String} {fixture : Fixture} :
    Convention.marked marker fixture = .rejected ↔
      marker.toList <:+: fixture.name.toList := by
  rw [← Text.containsChars_iff]
  by_cases contained : Text.containsChars marker.toList fixture.name.toList = true <;>
    simp [marked, Fixture.isSelectedBy, Text.contains, contained]

/-! ## Successes -/

namespace Verdict

@[simp] theorem isSuccess_succeeded : succeeded.isSuccess = true := rfl
@[simp] theorem isSuccess_failed : failed.isSuccess = false := rfl
@[simp] theorem isSuccess_timedOut : timedOut.isSuccess = false := rfl

theorem isSuccess_iff {verdict : Verdict} :
    verdict.isSuccess = true ↔ verdict = .succeeded := by
  cases verdict <;> simp

theorem isSuccess_ofExitCode {expected : Expectation} {exitCode : Option Int} :
    (ofExitCode expected exitCode).isSuccess = true ↔
      (expected = .rejected ↔ exitCode ≠ some 0) := by
  cases expected <;> by_cases zero : exitCode = some 0 <;> simp [ofExitCode, zero]

end Verdict

theorem Invocation.isSuccess_verdict {invocation : Invocation} {expected : Expectation} :
    (invocation.verdict expected).isSuccess = true ↔
      invocation.timedOut = false ∧ (expected = .rejected ↔ invocation.exitCode ≠ some 0) := by
  cases timedOut : invocation.timedOut with
  | true => simp [verdict, timedOut]
  | false => simp [verdict, timedOut, Verdict.isSuccess_ofExitCode]

end Conformance
