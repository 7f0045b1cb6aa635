import Conformance.Verdict

/-! # Tallies

How many fixtures of a run ended with each verdict.
-/

namespace Conformance

/-- The number of verdicts of each kind. -/
structure Tally where
  passed : Nat := 0
  failed : Nat := 0
  timedOut : Nat := 0
deriving Repr, DecidableEq

namespace Tally

/-- Counts one more verdict. -/
def add (tally : Tally) : Verdict → Tally
  | .succeeded => { tally with passed := tally.passed + 1 }
  | .failed => { tally with failed := tally.failed + 1 }
  | .timedOut => { tally with timedOut := tally.timedOut + 1 }

/-- The tally of a list of verdicts. -/
def ofVerdicts (verdicts : List Verdict) : Tally := verdicts.foldl add {}

/-- How many verdicts were counted. -/
def total (tally : Tally) : Nat := tally.passed + tally.failed + tally.timedOut

/-- Whether no counted verdict is a failure or a timeout. -/
def isClean (tally : Tally) : Bool := tally.failed == 0 && tally.timedOut == 0

/-- The exit code of a run with this tally. -/
def exitCode (tally : Tally) : Nat := if tally.isClean then 0 else 1

end Tally

end Conformance
