import Conformance.Program
import Conformance.Proofs.Run.Results
import Mathlib.Logic.Basic

/-! # Exit codes

The exit code of the program is zero if every fixture did what its name asks for, one if
some attempted fixture did not, and two if something was in the way.  A sink fails at its
limit or at one of its flushes; as the first failure ends a command, no other sink could
make it end differently.
-/

namespace Conformance

/-! ## Settings by what they ask for -/

namespace Settings

/-- The fixtures of the directory that the keyword selects; none if it cannot be read. -/
def kept (settings : Settings) (list : Path → Listing) : List Fixture :=
  match (Listing.gather list settings.fixtureDir).value with
  | .ok fixtures => Fixture.select settings.keyword fixtures
  | .error _ => []

/-- The directory cannot be read, and that is not tolerated. -/
def Refuses (settings : Settings) (list : Path → Listing) : Prop :=
  settings.tolerance = .strict ∧
    ∃ error, (Listing.gather list settings.fixtureDir).value = .error error

/-- The subject can be observed on a fixture, ends in time, and exits with code zero exactly
    if the marker does not stand in the fixture's name. -/
def Meets (settings : Settings) (world : World) (fixture : Fixture) : Prop :=
  ∃ invocation, (world.invoke settings fixture).value = .ok invocation ∧
    invocation.timedOut = false ∧
    Xor (settings.marker.toList <:+: fixture.name.toList) (invocation.exitCode = some 0)

theorem fixtures_of_refuses {settings : Settings} {list : Path → Listing}
    (refuses : settings.Refuses list) :
    ∃ obstacle, (settings.fixtures list).value = .error obstacle := by
  obtain ⟨strict, error, failed⟩ := refuses
  exact ⟨.listing error, by simp [fixtures, Listing.gatherWith, strict, failed, Except.map]⟩

theorem fixtures_of_not_refuses {settings : Settings} {list : Path → Listing}
    (goesOn : ¬ settings.Refuses list) :
    (settings.fixtures list).value = .ok (settings.kept list) := by
  cases gathered : (Listing.gather list settings.fixtureDir).value with
  | ok found => simp [fixtures, Listing.gatherWith, kept, gathered, Except.map]
  | error error =>
    have permissive : settings.tolerance = .permissive := by
      cases tolerance : settings.tolerance with
      | permissive => rfl
      | strict => exact absurd ⟨tolerance, error, gathered⟩ goesOn
    have nothing : Fixture.select settings.keyword [] = [] := by
      cases settings.keyword <;> rfl
    simp [fixtures, Listing.gatherWith, kept, gathered, permissive, nothing, Except.map]

theorem succeeds_iff {settings : Settings} {world : World} {fixtures : List Fixture}
    {fixture : Fixture} :
    (settings.plan world fixtures).Succeeds fixture ↔ settings.Meets world fixture := by
  have expected : (settings.plan world fixtures).expect fixture = .rejected ↔
      settings.marker.toList <:+: fixture.name.toList := by
    simp only [plan, convention, Convention.marked_eq_rejected]
  simp only [Plan.Succeeds, Meets, xor_iff_iff_not]
  cases observed : (world.invoke settings fixture).value with
  | error obstacle =>
    have unjudged : (settings.plan world fixtures).judgement? fixture = none :=
      Plan.judgement?_of_error observed
    simp [unjudged]
  | ok invocation =>
    have judged : (settings.plan world fixtures).judgement? fixture =
        some ((settings.plan world fixtures).judgement fixture invocation) :=
      Plan.judgement?_of_ok observed
    simp [judged, Plan.judgement, Invocation.isSuccess_verdict, expected]

end Settings

/-! ## The program -/

namespace Program

variable {world : World} {settings : Settings} {sink : Sink}

theorem run_of_refuses (refuses : settings.Refuses world.list) :
    ∃ failure, (run world settings sink).result = .error failure := by
  obtain ⟨obstacle, failed⟩ := settings.fixtures_of_refuses refuses
  exact ⟨.obstacle obstacle, by simp [run, failed]⟩

theorem run_of_not_refuses (goesOn : ¬ settings.Refuses world.list) :
    let trace := (settings.plan world (settings.kept world.list)).run sink
    (run world settings sink).sink = trace.state ∧
      (run world settings sink).result =
        match trace.result with
        | .error obstacle => .error (.obstacle obstacle)
        | .ok summary => .ok (exitCodeFor summary) := by
  simp only [run, settings.fixtures_of_not_refuses goesOn]
  split <;> simp [*]

theorem exitCodeFor_eq_zero {summary : Summary} :
    exitCodeFor summary = 0 ↔ summary.tally.isClean = true := Tally.exitCode_eq_zero

theorem exitCodeFor_eq_one {summary : Summary} :
    exitCodeFor summary = 1 ↔ summary.tally.isClean = false := Tally.exitCode_eq_one

theorem exitCodeFor_cases (summary : Summary) :
    exitCodeFor summary = 0 ∨ exitCodeFor summary = 1 := by
  unfold exitCodeFor
  split
  · exact .inl rfl
  · exact .inr rfl

theorem run_result_cases :
    (run world settings sink).result = .ok 0 ∨ (run world settings sink).result = .ok 1 ∨
      ∃ failure, (run world settings sink).result = .error failure := by
  by_cases refuses : settings.Refuses world.list
  · exact .inr (.inr (run_of_refuses refuses))
  · rw [(run_of_not_refuses refuses).2]
    split
    · exact .inr (.inr ⟨_, rfl⟩)
    · rename_i summary _
      rcases exitCodeFor_cases summary with zero | one
      · exact .inl (by rw [zero])
      · exact .inr (.inl (by rw [one]))

theorem list_result_cases :
    (list world settings sink).result = .ok 0 ∨
      ∃ failure, (list world settings sink).result = .error failure := by
  cases gathered : (settings.fixtures world.list).value with
  | error obstacle => exact .inr ⟨.obstacle obstacle, by simp only [list, gathered]⟩
  | ok fixtures =>
    rcases put : sink.put (Utf8.encode (String.join (fixtures.map
        (listingLine settings.convention)))) true with ⟨next, _ | fault⟩
    · exact .inl (by simp only [list, gathered, put])
    · exact .inr ⟨.obstacle (.cannotReport fault), by simp only [list, gathered, put]⟩

theorem run_result_iff (goesOn : ¬ settings.Refuses world.list) :
    let result := (run world settings sink).result
    let trace := (settings.plan world (settings.kept world.list)).run sink
    (result = .ok 0 ↔ ∃ summary, trace.result = .ok summary ∧ summary.tally.isClean = true) ∧
    (result = .ok 1 ↔ ∃ summary, trace.result = .ok summary ∧ summary.tally.isClean = false) ∧
    ((∃ failure, result = .error failure) ↔ ∃ obstacle, trace.result = .error obstacle) := by
  intro result trace
  have comes : result = match trace.result with
      | .error obstacle => .error (.obstacle obstacle)
      | .ok summary => .ok (exitCodeFor summary) := (run_of_not_refuses goesOn).2
  cases ends : trace.result with
  | error obstacle => simp [comes, ends]
  | ok summary => simp [comes, ends, exitCodeFor_eq_zero, exitCodeFor_eq_one]

/-- When the run that settings ask for gives which exit code, or fails. -/
theorem run_exitCode (world : World) (settings : Settings) (sink : Sink) :
    let result := (run world settings sink).result
    let plan := settings.plan world (settings.kept world.list)
    let effects := (plan.run sink).effects
    (result = .ok 0 ↔ ¬ settings.Refuses world.list ∧ Effect.Faultless effects ∧
      ∀ fixture ∈ settings.kept world.list, settings.Meets world fixture) ∧
    (result = .ok 1 ↔ ¬ settings.Refuses world.list ∧
      (∀ call ∈ effects, plan.obstacleOf call = none) ∧
      ∃ fixture ∈ Effect.invocations effects, ¬ settings.Meets world fixture) ∧
    ((∃ failure, result = .error failure) ↔ settings.Refuses world.list ∨
      ∃ call ∈ effects, plan.obstacleOf call ≠ none) := by
  intro result plan effects
  by_cases refuses : settings.Refuses world.list
  -- Nothing was run, and the conditions that speak of a run do not matter.
  · obtain ⟨failure, failed⟩ : ∃ failure, result = .error failure := run_of_refuses refuses
    simp [failed, refuses]
  · obtain ⟨zero, one, error⟩ := @run_result_iff world settings sink refuses
    simp only [Plan.run_clean_iff, Plan.run_unclean_iff, Plan.run_error_iff,
      Settings.succeeds_iff] at zero one error
    simp only [refuses, not_false_eq_true, true_and, false_or]
    exact ⟨zero, one, error⟩

/-- The exit code of the program.  It is zero, one or, after a failure, two, whatever the
    command.  After a run it is zero exactly if the fixture directory was not refused, no
    write and no flush failed, and every fixture that was to be used met its expectation,
    attempted or not; it is one exactly if nothing was in the way and some attempted fixture
    did not meet its expectation.  All ways to tell it from a summary agree. -/
theorem execute_exitCode (world : World) (sink : Sink) :
    (∀ command,
      let result := (execute world command sink).result
      result = .ok 0 ∨ result = .ok 1 ∨
        ∃ failure, result = .error failure ∧ failure.exitCode = 2) ∧
    (∀ choices,
      let settings := Settings.ofChoices choices
      let execution := execute world (some (.run choices)) sink
      let kept := settings.kept world.list
      let plan := settings.plan world kept
      let trace := plan.run sink
      (execution.result = .ok 0 ↔
        ¬ settings.Refuses world.list ∧ Effect.Faultless trace.effects ∧
          ∀ fixture ∈ kept, settings.Meets world fixture) ∧
      (execution.result = .ok 1 ↔
        ¬ settings.Refuses world.list ∧
          (∀ call ∈ trace.effects, plan.obstacleOf call = none) ∧
          ∃ fixture ∈ Effect.invocations trace.effects, ¬ settings.Meets world fixture) ∧
      ((∃ failure, execution.result = .error failure) ↔
        settings.Refuses world.list ∨
          ∃ call ∈ trace.effects, plan.obstacleOf call ≠ none) ∧
      (¬ settings.Refuses world.list → execution.sink = trace.state ∧
        ∀ summary, trace.result = .ok summary → execution.result = .ok summary.exitCode)) ∧
    ∀ summary : Summary,
      exitCodeFor summary = summary.exitCode ∧ summary.exitCode = summary.tally.exitCode ∧
      (JsonLines.record (.completed summary)).lookup "success" =
        some (.bool (decide (summary.exitCode = 0))) := by
  refine ⟨?_, ?_, ?_⟩
  · intro command
    have failing {result : Except Failure Nat} (failed : ∃ failure, result = .error failure) :
        ∃ failure, result = .error failure ∧ failure.exitCode = 2 := by
      obtain ⟨failure, failed⟩ := failed
      exact ⟨failure, failed, rfl⟩
    match command with
    | some (.run choices) => exact run_result_cases.imp id (.imp id failing)
    | some (.list choices) => exact list_result_cases.imp id (.inr ∘ failing)
    | none => exact .inr (.inr ⟨_, rfl, rfl⟩)
  · intro choices settings execution kept plan trace
    obtain ⟨zero, one, error⟩ := run_exitCode world settings sink
    refine ⟨zero, one, error, ?_⟩
    intro goesOn
    obtain ⟨left, comes⟩ := @run_of_not_refuses world settings sink goesOn
    refine ⟨left, ?_⟩
    intro summary ends
    have result : execution.result = _ := comes
    rw [result, show (plan.run sink).result = .ok summary from ends]
    rfl
  · intro summary
    have success : (JsonLines.record (.completed summary)).lookup "success" =
        some (.bool summary.tally.isClean) := rfl
    have cleanIff : summary.exitCode = 0 ↔ summary.tally.isClean = true := Tally.exitCode_eq_zero
    refine ⟨rfl, rfl, ?_⟩
    rw [success, decide_eq_decide.mpr cleanIff, Bool.decide_coe]

end Program

end Conformance
