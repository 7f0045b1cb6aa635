import Conformance.Proofs.Run.Abort
import Conformance.Proofs.Tally

/-! # Runs by what they come to

A run comes to a summary if none of its calls failed.  Whether the summary is clean can be
told from the fixtures: it is if each of them succeeds, those included that a run might pass
over.
-/

namespace Conformance

variable {σ : Type}

namespace Plan

/-- The subject can be observed on a fixture and does what is expected. -/
def Succeeds (plan : Plan σ) (fixture : Fixture) : Prop :=
  ∃ judgement, plan.judgement? fixture = some judgement ∧ judgement.verdict.isSuccess = true

variable {plan : Plan σ} {state : σ} {fixtures : List Fixture} {summary : Summary}

theorem attempted_subset : plan.attempted fixtures ⊆ fixtures := by
  induction fixtures with
  | nil => exact fun _ member => member
  | cons fixture rest ih =>
    rw [attempted]
    split
    · simp
    · exact List.cons_subset_cons fixture ih

/-- A run only passes over fixtures after one that did not succeed. -/
theorem succeeds_attempted :
    (∀ fixture ∈ plan.attempted fixtures, plan.Succeeds fixture) ↔
      ∀ fixture ∈ fixtures, plan.Succeeds fixture := by
  induction fixtures with
  | nil => rfl
  | cons fixture rest ih =>
    cases ends : plan.endsAt fixture with
    | true =>
      -- A fixture at which the run ends is one that does not succeed: both sides fail.
      have unsuccessful : ¬ plan.Succeeds fixture := by
        rintro ⟨judgement, judged, success⟩
        simp [endsAt, judged, success] at ends
      simp [attempted, ends, unsuccessful]
    | false => simp [attempted, ends, ih]

theorem isClean_verdicts (clear : ∀ fixture ∈ fixtures, plan.obstacleOn fixture = none) :
    (Tally.ofVerdicts (plan.verdicts fixtures)).isClean = true ↔
      ∀ fixture ∈ fixtures, plan.Succeeds fixture := by
  rw [Tally.isClean_ofVerdicts]
  constructor
  · intro allSucceeded fixture member
    cases judged : plan.judgement? fixture with
    | none =>
      -- It would not be counted at all, but then there would be an obstacle.
      obtain ⟨obstacle, met⟩ := obstacleOn_of_unjudged judged
      simp [clear fixture member] at met
    | some judgement =>
      refine ⟨judgement, judged, allSucceeded _ ?_⟩
      exact List.mem_filterMap.mpr ⟨fixture, member, by simp [judged]⟩
  · intro succeed verdict counted
    obtain ⟨fixture, member, same⟩ := List.mem_filterMap.mp counted
    obtain ⟨judgement, judged, success⟩ := succeed fixture member
    simp only [judged, Option.map_some, Option.some.injEq] at same
    exact same ▸ success

/-- A run with a summary followed its script, met no obstacle, and its tally is clean
    exactly if every attempted fixture succeeded. -/
theorem run_of_ok (ends : (plan.run state).result = .ok summary) :
    (plan.run state).effects = plan.script ∧
      (∀ fixture ∈ plan.attempted plan.fixtures, plan.obstacleOn fixture = none) ∧
      (summary.tally.isClean = true ↔
        ∀ fixture ∈ plan.attempted plan.fixtures, plan.Succeeds fixture) := by
  have relayed := ends
  rw [run_eq_relay] at relayed
  have follows := plan.run_of_accepts (Reporter.accepts_of_relay_ok relayed)
  have comes := Reporter.eq_of_relay_ok relayed
  cases met : plan.obstacleMet plan.fixtures with
  | some obstacle => simp [verdictOnRun_of_met met] at comes
  | none =>
    have clear : ∀ fixture ∈ plan.attempted plan.fixtures, plan.obstacleOn fixture = none :=
      List.findSome?_eq_none_iff.mp met
    rw [verdictOnRun_of_clear met] at comes
    injection comes with comes
    refine ⟨by rw [follows], clear, ?_⟩
    rw [← comes]
    exact isClean_verdicts clear

theorem run_error_iff :
    (∃ obstacle, (plan.run state).result = .error obstacle) ↔
      ∃ call ∈ (plan.run state).effects, plan.obstacleOf call ≠ none := by
  rw [(plan.run_ends state).failed_iff]
  constructor
  · rintro ⟨call, made, fails⟩
    exact ⟨call, (List.mem_filter.mp made).1, fails⟩
  · rintro ⟨call, made, fails⟩
    cases call with
    | invoked fixture | notified event fault => exact ⟨_, List.mem_filter.mpr ⟨made, rfl⟩, fails⟩
    | logged event => exact absurd rfl fails

theorem run_ok_iff :
    (∃ summary, (plan.run state).result = .ok summary) ↔
      ∀ call ∈ (plan.run state).effects, plan.obstacleOf call = none := by
  have errorIff := @run_error_iff σ plan state
  cases ends : (plan.run state).result with
  | error obstacle =>
    obtain ⟨call, made, fails⟩ := errorIff.mp ⟨obstacle, ends⟩
    exact iff_of_false (by simp) fun succeeded => fails (succeeded call made)
  | ok summary =>
    have noneFails := mt errorIff.mpr (by simp [ends])
    exact iff_of_true ⟨summary, rfl⟩ (by simpa using noneFails)

theorem invoked_mem {fixture : Fixture} (invoked : .invoked fixture ∈ (plan.run state).effects) :
    fixture ∈ plan.fixtures := by
  rw [run_eq_relay] at invoked
  have scripted := Effect.mem_invocations.mpr (Reporter.invoked_of_relay invoked)
  rw [invocations_script] at scripted
  exact attempted_subset scripted

/-- A run comes to a clean summary exactly if no call of the reporter failed and every
    fixture succeeds, also those that a run might pass over. -/
theorem run_clean_iff :
    (∃ summary, (plan.run state).result = .ok summary ∧ summary.tally.isClean = true) ↔
      Effect.Faultless (plan.run state).effects ∧
        ∀ fixture ∈ plan.fixtures, plan.Succeeds fixture := by
  constructor
  · rintro ⟨summary, ends, clean⟩
    obtain ⟨follows, -, cleanIff⟩ := run_of_ok ends
    exact ⟨follows ▸ plan.script_faultless, succeeds_attempted.mp (cleanIff.mp clean)⟩
  · rintro ⟨faultless, succeed⟩
    cases ends : (plan.run state).result with
    | ok summary =>
      obtain ⟨-, -, cleanIff⟩ := run_of_ok ends
      exact ⟨summary, rfl, cleanIff.mpr (succeeds_attempted.mpr succeed)⟩
    | error obstacle =>
      -- Some call failed, and neither the subject nor the reporter can have been it.
      obtain ⟨call, made, fails⟩ := run_error_iff.mp ⟨obstacle, ends⟩
      cases call with
      | invoked fixture =>
        obtain ⟨judgement, judged, -⟩ := succeed fixture (invoked_mem made)
        exact absurd (obstacleOn_of_judged judged) fails
      | notified event fault =>
        cases fault with
        | none => exact absurd rfl fails
        | some cause => exact absurd made (faultless event cause)
      | logged event => exact absurd rfl fails

/-- A run comes to a summary that is not clean exactly if no call failed and some attempted
    fixture does not succeed. -/
theorem run_unclean_iff :
    (∃ summary, (plan.run state).result = .ok summary ∧ summary.tally.isClean = false) ↔
      (∀ call ∈ (plan.run state).effects, plan.obstacleOf call = none) ∧
        ∃ fixture ∈ Effect.invocations (plan.run state).effects, ¬ plan.Succeeds fixture := by
  rw [← run_ok_iff]
  constructor
  · rintro ⟨summary, ends, unclean⟩
    obtain ⟨follows, -, cleanIff⟩ := run_of_ok ends
    refine ⟨⟨summary, ends⟩, ?_⟩
    rw [Bool.eq_false_iff, ne_eq, cleanIff] at unclean
    simpa [follows, invocations_script] using unclean
  · rintro ⟨⟨summary, ends⟩, fixture, invoked, unsuccessful⟩
    obtain ⟨follows, -, cleanIff⟩ := run_of_ok ends
    rw [follows, invocations_script] at invoked
    refine ⟨summary, ends, ?_⟩
    rw [Bool.eq_false_iff]
    intro clean
    exact unsuccessful (cleanIff.mp clean fixture invoked)

end Plan

end Conformance
