import Conformance.Proofs.Run.Course
import Conformance.Proofs.Tally

/-! # Runs in which nothing fails

If the subject can be observed on every fixture and no call of the reporter fails, the
whole trace of a run is known beforehand.  How far the run gets is decided by the verdicts
alone: `reach` says how many fixtures are attempted, and the trace is what is done about
these, one after the other, between one call at the start and one at the end.
-/

namespace Conformance

variable {σ : Type}

/-- The reporter that remembers what it is told. -/
def Reporter.recorder : Reporter (List Event) where
  notify told event := (told ++ [event], none)

theorem Reporter.recorder_reliable (told : List Event) : recorder.Reliable told := by
  intro events
  induction events generalizing told with
  | nil => trivial
  | cons event events ih => exact ⟨rfl, ih _⟩

/-- How many fixtures a run attempts, given the verdicts on all of them: every one, or, if
    it is to stop at the first failure and there is one, those up to and including it. -/
def reach (failFast : Bool) (verdicts : List Verdict) : Nat :=
  if failFast && verdicts.any (!·.isSuccess) then verdicts.findIdx (!·.isSuccess) + 1
  else verdicts.length

theorem reach_cons (failFast : Bool) (verdict : Verdict) (verdicts : List Verdict) :
    reach failFast (verdict :: verdicts) =
      if failFast && !verdict.isSuccess then 1 else reach failFast verdicts + 1 := by
  cases failFast with
  | false => simp [reach]
  | true =>
    cases success : verdict.isSuccess with
    | false => simp [reach, List.findIdx_cons, success]
    | true =>
      simp only [reach, List.any_cons, List.findIdx_cons, success]
      split <;> simp_all

theorem reach_le_length (failFast : Bool) (verdicts : List Verdict) :
    reach failFast verdicts ≤ verdicts.length := by
  induction verdicts with
  | nil => simp [reach]
  | cons verdict verdicts ih =>
    rw [reach_cons, List.length_cons]
    split <;> omega

namespace Plan

/-- The verdict on a fixture on which the subject has the given result. -/
def verdictOn (plan : Plan σ) (invocation : Fixture → Invocation) (fixture : Fixture) :
    Verdict :=
  (invocation fixture).verdict (plan.expect fixture)

section Observed

variable {plan : Plan σ} {invocation : Fixture → Invocation} {fixtures : List Fixture}

theorem attempted_eq_take
    (observed : ∀ fixture ∈ fixtures, (plan.invoke fixture).value = .ok (invocation fixture)) :
    plan.attempted fixtures =
      fixtures.take (reach plan.failFast (fixtures.map (plan.verdictOn invocation))) := by
  induction fixtures with
  | nil => simp [attempted]
  | cons fixture rest ih =>
    have judged := judgement?_of_ok (observed fixture (List.mem_cons_self ..))
    have tail := ih fun other member => observed other (List.mem_cons_of_mem _ member)
    have ends : plan.endsAt fixture =
        (plan.failFast && !(plan.verdictOn invocation fixture).isSuccess) := by
      simp only [endsAt, judged]
      rfl
    simp only [attempted, ends, List.map_cons, reach_cons]
    split
    · rfl
    · simp [tail]

theorem obstacleMet_eq_none
    (observed : ∀ fixture ∈ fixtures, (plan.invoke fixture).value = .ok (invocation fixture)) :
    plan.obstacleMet fixtures = none := by
  simp only [obstacleMet, attempted_eq_take observed, List.findSome?_eq_none_iff]
  intro fixture member
  exact obstacleOn_of_ok (observed fixture (List.mem_of_mem_take member))

theorem verdicts_eq_map
    (observed : ∀ fixture ∈ fixtures, (plan.invoke fixture).value = .ok (invocation fixture)) :
    plan.verdicts fixtures = fixtures.map (plan.verdictOn invocation) := by
  induction fixtures with
  | nil => rfl
  | cons fixture rest ih =>
    have judged := judgement?_of_ok (observed fixture (List.mem_cons_self ..))
    have tail := ih fun other member => observed other (List.mem_cons_of_mem _ member)
    simp only [verdicts] at tail
    simp only [verdicts, List.filterMap_cons, judged, tail]
    rfl

theorem judgements_eq_map
    (observed : ∀ fixture ∈ fixtures, (plan.invoke fixture).value = .ok (invocation fixture)) :
    (fixtures.filterMap fun fixture => (plan.judgement? fixture).map Event.judged) =
      fixtures.map fun fixture => .judged (plan.judgement fixture (invocation fixture)) := by
  induction fixtures with
  | nil => rfl
  | cons fixture rest ih =>
    have judged := judgement?_of_ok (observed fixture (List.mem_cons_self ..))
    have tail := ih fun other member => observed other (List.mem_cons_of_mem _ member)
    simp [judged, tail]

theorem flatMap_effectsOn
    (observed : ∀ fixture ∈ fixtures, (plan.invoke fixture).value = .ok (invocation fixture)) :
    fixtures.flatMap plan.effectsOn = fixtures.flatMap fun fixture =>
      plan.reporting fixture (plan.judgement fixture (invocation fixture)) none := by
  simp only [List.flatMap_def]
  congr 1
  apply List.map_congr_left
  intro fixture member
  exact effectsOn_of_ok (observed fixture member)

/-- A run over fixtures all of which can be observed comes to a summary of the verdicts on
    those that it reaches. -/
theorem verdictOnRun_eq_ok
    (observed : ∀ fixture ∈ plan.fixtures,
      (plan.invoke fixture).value = .ok (invocation fixture)) :
    let verdicts := plan.fixtures.map (plan.verdictOn invocation)
    let count := reach plan.failFast verdicts
    plan.verdictOnRun =
      .ok ⟨Tally.ofVerdicts (verdicts.take count), plan.fixtures.length,
        decide (count < plan.fixtures.length), plan.elapsed⟩ := by
  intro verdicts count
  have observedAttempted : ∀ fixture ∈ plan.fixtures.take count,
      (plan.invoke fixture).value = .ok (invocation fixture) := fun fixture member =>
    observed fixture (List.mem_of_mem_take member)
  have reached : plan.attempted plan.fixtures = plan.fixtures.take count :=
    attempted_eq_take observed
  have left : (plan.fixtures.take count).length < plan.fixtures.length ↔
      count < plan.fixtures.length := by
    rw [List.length_take]
    omega
  simp only [verdictOnRun_of_clear (obstacleMet_eq_none observed), reached, left,
    verdicts_eq_map observedAttempted, List.map_take]
  rfl

end Observed

/-- The whole trace of a run in which nothing fails.  It attempts as many fixtures as
    `reach` says; each is invoked, judged and reported before the next one is invoked.  If
    fixtures are left this is logged, and the summary is reported last. -/
theorem run_trace (plan : Plan σ) (state : σ) (invocation : Fixture → Invocation)
    (observed : ∀ fixture ∈ plan.fixtures,
      (plan.invoke fixture).value = .ok (invocation fixture))
    (reliable : plan.reporter.Reliable state) :
    let verdicts := plan.fixtures.map (plan.verdictOn invocation)
    let count := reach plan.failFast verdicts
    let attempted := plan.fixtures.take count
    let judgement fixture : Judgement :=
      ⟨fixture, plan.expect fixture, plan.verdictOn invocation fixture, invocation fixture⟩
    let summary : Summary :=
      ⟨Tally.ofVerdicts (verdicts.take count), plan.fixtures.length,
        decide (count < plan.fixtures.length), plan.elapsed⟩
    let trace := plan.run state
    trace.result = .ok summary ∧
    trace.effects =
      .notified (.started plan.fixtures.length) none ::
        ((attempted.flatMap fun fixture =>
          .invoked fixture :: ((plan.invoke fixture).logs.map .logged ++
            [.logged (.judged fixture (plan.expect fixture) (judgement fixture).verdict),
              .notified (.judged (judgement fixture)) none])) ++
        (if summary.stoppedEarly then
          [.logged (.stoppingEarly (plan.fixtures.length - count))] else []) ++
        [.notified (.completed summary) none]) ∧
    Effect.invocations trace.effects = attempted ∧
    Effect.events trace.effects =
      .started plan.fixtures.length ::
        (attempted.map fun fixture => .judged (judgement fixture)) ++ [.completed summary] ∧
    trace.state = plan.reporter.stateAfter state (Effect.events trace.effects) ∧
    (∀ remaining, .logged (.stoppingEarly remaining) ∈ trace.effects ↔
      (∃ fixture ∈ attempted, .stoppingEarly remaining ∈ (plan.invoke fixture).logs) ∨
        summary.stoppedEarly = true ∧ remaining = plan.fixtures.length - count) ∧
    plan.fixtures.length - count = summary.fixtureCount - summary.tally.total := by
  intro verdicts count attempted judgement summary trace
  have reached : plan.attempted plan.fixtures = attempted := attempted_eq_take observed
  have observedAttempted : ∀ fixture ∈ attempted,
      (plan.invoke fixture).value = .ok (invocation fixture) := fun fixture member =>
    observed fixture (List.mem_of_mem_take member)
  have count_le : count ≤ plan.fixtures.length := by
    simpa [verdicts] using reach_le_length plan.failFast verdicts
  have comes : plan.verdictOnRun = .ok summary := verdictOnRun_eq_ok observed
  -- The script says everything about the trace; what remains is to write it out.
  have follows : trace =
      ⟨plan.script, plan.reporter.stateAfter state (Effect.events plan.script), .ok summary⟩ :=
    comes ▸ plan.run_of_accepts (reliable _)
  have effects : trace.effects = .notified (.started plan.fixtures.length) none ::
      ((attempted.flatMap fun fixture =>
        .invoked fixture :: ((plan.invoke fixture).logs.map .logged ++
          [.logged (judgedLog (judgement fixture)),
            .notified (.judged (judgement fixture)) none])) ++
      (if summary.stoppedEarly then
        [.logged (.stoppingEarly (plan.fixtures.length - count))] else []) ++
      [.notified (.completed summary) none]) := by
    rw [follows]
    simp only [script, closing, comes, course, reached, stopNotice,
      obstacleMet_eq_none observed, flatMap_effectsOn observedAttempted]
    simp only [attempted, summary, judgement, List.length_take, Nat.min_eq_left count_le,
      true_and, decide_eq_true_eq, List.append_assoc]
    rfl
  refine ⟨by rw [follows], effects, ?_, ?_, by rw [follows], ?_, ?_⟩
  · rw [follows, invocations_script, reached]
  · rw [follows]
    simp only [script, closing, comes, events_course, reached, Effect.events_notified,
      Effect.events_append, Effect.events_nil, judgements_eq_map observedAttempted]
    rfl
  · -- The subject may log on its own account, hence the first alternative.
    intro remaining
    rw [effects]
    simp [judgedLog]
  · simp [summary, Tally.total_ofVerdicts, verdicts, count_le]

/-- A plan with a failure in the middle, at which its run stops. -/
def failureMidway : Plan (List Event) where
  fixtures := [⟨"a"⟩, ⟨"b"⟩, ⟨"c"⟩]
  invoke fixture := { value := .ok (.exited (if fixture = ⟨"b"⟩ then 1 else 0)) }
  expect := .marked "fail"
  reporter := .recorder
  failFast := true

theorem failureMidway_trace :
    (failureMidway.run []).result = .ok ⟨⟨1, 1, 0⟩, 3, true, .zero⟩ ∧
      Effect.invocations (failureMidway.run []).effects = [⟨"a"⟩, ⟨"b"⟩] := by
  obtain ⟨result, -, invoked, -⟩ :=
    failureMidway.run_trace [] (fun fixture => .exited (if fixture = ⟨"b"⟩ then 1 else 0))
      (fun _ _ => rfl) (Reporter.recorder_reliable [])
  exact ⟨result.trans (congrArg Except.ok (by decide +kernel)), invoked.trans (by decide +kernel)⟩

end Plan

end Conformance
