import Conformance.Proofs.Verdict
import Conformance.Tally

/-! # What a tally counts

Counting verdicts one by one gives the number of occurrences of each.  Whether a tally is
clean, how large it is and the exit code it stands for can therefore be read off the
verdicts themselves, in whatever order they came.  The order is all that is lost
(`ofVerdicts_exact`).
-/

namespace Conformance

namespace Tally

/-- How many verdicts counted are not successes. -/
def failures (tally : Tally) : Nat := tally.failed + tally.timedOut

theorem foldl_add (tally : Tally) (verdicts : List Verdict) :
    verdicts.foldl add tally =
      ⟨tally.passed + verdicts.count .succeeded, tally.failed + verdicts.count .failed,
        tally.timedOut + verdicts.count .timedOut⟩ := by
  induction verdicts generalizing tally with
  | nil => rfl
  | cons verdict verdicts ih =>
    cases verdict <;> simp [ih, add, Nat.add_comm, Nat.add_left_comm]

theorem ofVerdicts_eq (verdicts : List Verdict) :
    ofVerdicts verdicts =
      ⟨verdicts.count .succeeded, verdicts.count .failed, verdicts.count .timedOut⟩ := by
  simp [ofVerdicts, foldl_add]

theorem total_ofVerdicts (verdicts : List Verdict) :
    (ofVerdicts verdicts).total = verdicts.length := by
  simp only [ofVerdicts_eq, total]
  induction verdicts with
  | nil => rfl
  | cons verdict verdicts ih =>
    cases verdict <;> simp <;> omega

theorem failures_ofVerdicts (verdicts : List Verdict) :
    (ofVerdicts verdicts).failures = verdicts.countP (!·.isSuccess) := by
  simp only [ofVerdicts_eq, failures]
  induction verdicts with
  | nil => rfl
  | cons verdict verdicts ih =>
    cases verdict <;> simp <;> omega

/-- What two tallies count together. -/
def sum (first second : Tally) : Tally :=
  ⟨first.passed + second.passed, first.failed + second.failed, first.timedOut + second.timedOut⟩

theorem ofVerdicts_append (first second : List Verdict) :
    ofVerdicts (first ++ second) = (ofVerdicts first).sum (ofVerdicts second) := by
  simp only [ofVerdicts_eq, List.count_append, sum]

/-- A tally does not tell in which order verdicts came. -/
theorem ofVerdicts_perm {first second : List Verdict} (permuted : first.Perm second) :
    ofVerdicts first = ofVerdicts second := by
  simp only [ofVerdicts_eq, permuted.count_eq]

theorem isClean_ofVerdicts {verdicts : List Verdict} :
    (ofVerdicts verdicts).isClean = true ↔ ∀ verdict ∈ verdicts, verdict.isSuccess = true := by
  simp only [isClean, ofVerdicts_eq, Bool.and_eq_true, beq_iff_eq, List.count_eq_zero,
    Verdict.isSuccess_iff]
  constructor
  · rintro ⟨noFailure, noTimeout⟩ verdict counted
    cases verdict with
    | succeeded => rfl
    | failed => exact absurd counted noFailure
    | timedOut => exact absurd counted noTimeout
  · intro allSucceeded
    constructor
    · intro counted
      cases allSucceeded _ counted
    · intro counted
      cases allSucceeded _ counted

theorem ofVerdicts_eq_iff_perm {first second : List Verdict} :
    ofVerdicts first = ofVerdicts second ↔ first.Perm second := by
  constructor
  · intro same
    rw [ofVerdicts_eq, ofVerdicts_eq, Tally.mk.injEq] at same
    obtain ⟨passed, failed, timedOut⟩ := same
    rw [List.perm_iff_count]
    intro verdict
    cases verdict with
    | succeeded => exact passed
    | failed => exact failed
    | timedOut => exact timedOut
  · exact ofVerdicts_perm

theorem foldl_add_eq_sum (start : Tally) (verdicts : List Verdict) :
    verdicts.foldl add start = start.sum (ofVerdicts verdicts) := by
  rw [foldl_add, ofVerdicts_eq, sum]

theorem isClean_sum {first second : Tally} :
    (first.sum second).isClean = true ↔ first.isClean = true ∧ second.isClean = true := by
  simp only [isClean, sum, Bool.and_eq_true, beq_iff_eq]
  omega

/-- Every count of a tally is a 64-bit word. -/
structure Fits (tally : Tally) : Prop where
  passed : tally.passed < UInt64.size
  failed : tally.failed < UInt64.size
  timedOut : tally.timedOut < UInt64.size

theorem Fits.of_sum {first second : Tally} (fits : (first.sum second).Fits) : first.Fits := by
  obtain ⟨passed, failed, timedOut⟩ := fits
  simp only [sum] at passed failed timedOut
  constructor <;> omega

theorem fits_of_total {tally : Tally} (bounded : tally.total < UInt64.size) : tally.Fits := by
  simp only [total] at bounded
  constructor <;> omega

theorem Fits.of_prefix {start : Tally} {seen verdicts : List Verdict} (early : seen <+: verdicts)
    (fits : (verdicts.foldl add start).Fits) : (seen.foldl add start).Fits := by
  obtain ⟨rest, rfl⟩ := early
  rw [List.foldl_append, foldl_add_eq_sum] at fits
  exact fits.of_sum

theorem exitCode_eq_zero {tally : Tally} : tally.exitCode = 0 ↔ tally.isClean = true := by
  simp [exitCode]

theorem exitCode_eq_one {tally : Tally} : tally.exitCode = 1 ↔ tally.isClean = false := by
  simp [exitCode]

/-- A tally counts exactly: it has the number of occurrences of each verdict, and it is clean if
    all of them are successes.  Two lists of verdicts have the same tally if and only if one is
    the other in another order.  Counting on from any tally adds the counts, so what is not clean
    stays so.  As long as the counts at the end are 64-bit words, they are at every step before;
    fewer than `2 ^ 64` verdicts are not too many. -/
theorem ofVerdicts_exact (verdicts : List Verdict) :
    let tally := ofVerdicts verdicts
    tally.passed = verdicts.count .succeeded ∧
    tally.failed = verdicts.count .failed ∧
    tally.timedOut = verdicts.count .timedOut ∧
    tally.total = verdicts.length ∧
    (tally.isClean = true ↔ ∀ verdict ∈ verdicts, verdict = .succeeded) ∧
    (tally.exitCode = 0 ↔ ∀ verdict ∈ verdicts, verdict = .succeeded) ∧
    (∀ others, ofVerdicts others = tally ↔ others.Perm verdicts) ∧
    (∀ start : Tally,
      verdicts.foldl add start =
        ⟨start.passed + tally.passed, start.failed + tally.failed,
          start.timedOut + tally.timedOut⟩ ∧
      (start.isClean = false → (verdicts.foldl add start).isClean = false) ∧
      ((verdicts.foldl add start).Fits → ∀ seen, seen <+: verdicts → (seen.foldl add start).Fits)) ∧
    (verdicts.length < UInt64.size → tally.Fits) := by
  intro tally
  have counted : tally = _ := ofVerdicts_eq verdicts
  have clean : tally.isClean = true ↔ ∀ verdict ∈ verdicts, verdict = .succeeded := by
    simp only [tally, isClean_ofVerdicts, Verdict.isSuccess_iff]
  refine ⟨by rw [counted], by rw [counted], by rw [counted], total_ofVerdicts verdicts, clean,
    exitCode_eq_zero.trans clean, fun others => ofVerdicts_eq_iff_perm, ?_, ?_⟩
  · intro start
    refine ⟨foldl_add_eq_sum start verdicts, ?_, ?_⟩
    · intro unclean
      rw [foldl_add_eq_sum, Bool.eq_false_iff, Ne, isClean_sum, unclean]
      simp
    · intro fits seen early
      exact fits.of_prefix early
  · intro few
    apply fits_of_total
    rw [total_ofVerdicts]
    exact few

-- A failure is not made good by the successes behind it.
example : (ofVerdicts [.failed, .succeeded, .succeeded]).isClean = false := by decide

end Tally

end Conformance
