import Conformance.Proofs.Report.Sound
import Conformance.Proofs.Tally
import Mathlib.Data.List.Infix

/-! # Stopping at the first failure

Two runs over the same fixtures, one that stops at the first failure and one that goes on.
They do the same until the first fixture that does not succeed: there the one stops, and
everything the other does from then on comes on top.  What can be told from the shorter
run about the longer one is collected in `Plan.Abridges`.
-/

namespace Conformance

variable {σ : Type}

/-- Whether an event comes before the one that completes a run. -/
def Event.isOpening : Event → Bool
  | .completed _ => false
  | _ => true

/-- The events told before the one that completes a run. -/
def Event.opening (events : List Event) : List Event := events.takeWhile Event.isOpening

namespace Plan

/-! ## The fixtures attempted -/

/-- The plan that stops at the first failure, and takes a time of its own. -/
def stopping (plan : Plan σ) (elapsed : Duration) : Plan σ :=
  { plan with failFast := true, elapsed }

/-- The plan that goes on after failures, and takes a time of its own. -/
def persisting (plan : Plan σ) (elapsed : Duration) : Plan σ :=
  { plan with failFast := false, elapsed }

section Attempted

variable (plan : Plan σ) (quickTime fullTime : Duration)

@[simp] theorem stopping_fixtures : (plan.stopping quickTime).fixtures = plan.fixtures := rfl
@[simp] theorem persisting_fixtures : (plan.persisting fullTime).fixtures = plan.fixtures := rfl
@[simp] theorem stopping_failFast : (plan.stopping quickTime).failFast = true := rfl
@[simp] theorem persisting_failFast : (plan.persisting fullTime).failFast = false := rfl
@[simp] theorem stopping_judgement? (fixture : Fixture) :
    (plan.stopping quickTime).judgement? fixture = plan.judgement? fixture := rfl
@[simp] theorem persisting_judgement? (fixture : Fixture) :
    (plan.persisting fullTime).judgement? fixture = plan.judgement? fixture := rfl

@[simp] theorem stopping_obstacleOn (fixture : Fixture) :
    (plan.stopping quickTime).obstacleOn fixture = plan.obstacleOn fixture := rfl
@[simp] theorem persisting_obstacleOn (fixture : Fixture) :
    (plan.persisting fullTime).obstacleOn fixture = plan.obstacleOn fixture := rfl

theorem stopping_endsAt (fixture : Fixture) :
    (plan.stopping quickTime).endsAt fixture =
      match plan.judgement? fixture with
      | none => true
      | some judgement => !judgement.verdict.isSuccess := by
  cases judged : plan.judgement? fixture <;> simp [endsAt, judged]

theorem persisting_endsAt (fixture : Fixture) :
    (plan.persisting fullTime).endsAt fixture = (plan.judgement? fixture).isNone := by
  cases judged : plan.judgement? fixture <;> simp [endsAt, judged]

/-- The two runs attempt the same fixtures, or they part at one that does not succeed, with
    fixtures left. -/
theorem attempted_cases (fixtures : List Fixture) :
    (plan.stopping quickTime).attempted fixtures = (plan.persisting fullTime).attempted fixtures ∨
    ∃ common last rest judgement, fixtures = common ++ last :: rest ∧ rest ≠ [] ∧
      (plan.stopping quickTime).attempted fixtures = common ++ [last] ∧
      (plan.persisting fullTime).attempted fixtures =
        common ++ last :: (plan.persisting fullTime).attempted rest ∧
      (∀ fixture ∈ common, plan.obstacleOn fixture = none) ∧
      plan.judgement? last = some judgement ∧ judgement.verdict.isSuccess = false := by
  induction fixtures with
  | nil => exact .inl rfl
  | cons fixture rest ih =>
    cases judged : plan.judgement? fixture with
    | none => exact .inl (by simp [attempted, stopping_endsAt, persisting_endsAt, judged])
    | some judgement =>
      have goesOn : (plan.persisting fullTime).attempted (fixture :: rest) =
          fixture :: (plan.persisting fullTime).attempted rest := by
        simp [attempted, persisting_endsAt, judged]
      cases success : judgement.verdict.isSuccess with
      | false =>
        -- Here the one stops.  That makes no difference if this is the last fixture.
        have stops : (plan.stopping quickTime).attempted (fixture :: rest) = [fixture] := by
          simp [attempted, stopping_endsAt, judged, success]
        cases rest with
        | nil => exact .inl (by simp [attempted])
        | cons other rest =>
          exact .inr ⟨[], fixture, other :: rest, judgement, rfl, by simp, stops, goesOn,
            by simp, judged, success⟩
      | true =>
        -- Both go on, and part later if at all.
        have stays : (plan.stopping quickTime).attempted (fixture :: rest) =
            fixture :: (plan.stopping quickTime).attempted rest := by
          simp [attempted, stopping_endsAt, judged, success]
        rw [stays, goesOn]
        rcases ih with same | ⟨common, last, left, failing, rfl, more, quick, full, clear, found⟩
        · exact .inl (by rw [same])
        · refine .inr ⟨fixture :: common, last, left, failing, rfl, more, by simp [quick],
            by simp [full], ?_, found⟩
          intro other member
          rcases List.mem_cons.mp member with rfl | member
          · exact obstacleOn_of_judged judged
          · exact clear other member

/-- At most one of the fixtures attempted by a run that stops at the first failure does not
    succeed. -/
theorem failures_of_stopping (fixtures : List Fixture) :
    (Tally.ofVerdicts
      (plan.verdicts ((plan.stopping quickTime).attempted fixtures))).failures ≤ 1 := by
  induction fixtures with
  | nil => simp [attempted, verdicts, Tally.failures_ofVerdicts]
  | cons fixture rest ih =>
    cases judged : plan.judgement? fixture with
    | none =>
      have stops : (plan.stopping quickTime).attempted (fixture :: rest) = [fixture] := by
        simp [attempted, stopping_endsAt, judged]
      simp [stops, verdicts, judged, Tally.failures_ofVerdicts]
    | some judgement =>
      cases success : judgement.verdict.isSuccess with
      | false =>
        have stops : (plan.stopping quickTime).attempted (fixture :: rest) = [fixture] := by
          simp [attempted, stopping_endsAt, judged, success]
        simp [stops, verdicts, judged, success, Tally.failures_ofVerdicts]
      | true =>
        have goesOn : (plan.stopping quickTime).attempted (fixture :: rest) =
            fixture :: (plan.stopping quickTime).attempted rest := by
          simp [attempted, stopping_endsAt, judged, success]
        simpa [goesOn, verdicts, judged, success, Tally.failures_ofVerdicts] using ih

/-- A run that goes on and meets no obstacle attempts every fixture. -/
theorem attempted_of_clear {fixtures : List Fixture}
    (clear : (plan.persisting fullTime).obstacleMet fixtures = none) :
    (plan.persisting fullTime).attempted fixtures = fixtures := by
  induction fixtures with
  | nil => rfl
  | cons fixture rest ih =>
    cases judged : plan.judgement? fixture with
    | none =>
      obtain ⟨obstacle, met⟩ := obstacleOn_of_unjudged judged
      have stops : (plan.persisting fullTime).attempted (fixture :: rest) = [fixture] := by
        simp [attempted, persisting_endsAt, judged]
      simp [obstacleMet, stops, met] at clear
    | some judgement =>
      have goesOn : (plan.persisting fullTime).attempted (fixture :: rest) =
          fixture :: (plan.persisting fullTime).attempted rest := by
        simp [attempted, persisting_endsAt, judged]
      have clearRest : (plan.persisting fullTime).obstacleMet rest = none := by
        rw [obstacleMet, goesOn, List.findSome?_cons, persisting_obstacleOn,
          obstacleOn_of_judged judged] at clear
        exact clear
      rw [goesOn, ih clearRest]

theorem attempted_prefix (fixtures : List Fixture) :
    (plan.stopping quickTime).attempted fixtures <+:
      (plan.persisting fullTime).attempted fixtures := by
  rcases plan.attempted_cases quickTime fullTime fixtures with
    same | ⟨common, last, rest, -, -, -, quick, full, -⟩
  · exact same ▸ List.prefix_rfl
  · rw [quick, full]
    exact ⟨(plan.persisting fullTime).attempted rest, by simp⟩

/-! ## What the runs come to -/

theorem isClean_of_failing {fixture : Fixture} {judgement : Judgement} {fixtures : List Fixture}
    (judged : plan.judgement? fixture = some judgement)
    (failing : judgement.verdict.isSuccess = false) (member : fixture ∈ fixtures) :
    (Tally.ofVerdicts (plan.verdicts fixtures)).isClean = false := by
  rw [Bool.eq_false_iff, ne_eq, Tally.isClean_ofVerdicts]
  intro allSucceeded
  have counted : judgement.verdict ∈ plan.verdicts fixtures :=
    List.mem_filterMap.mpr ⟨fixture, member, by simp [judged]⟩
  simp [allSucceeded _ counted] at failing

theorem tally_of_stopping {summary : Summary}
    (comes : (plan.stopping quickTime).verdictOnRun = .ok summary) :
    summary.tally.failures ≤ 1 := by
  cases met : (plan.stopping quickTime).obstacleMet plan.fixtures with
  | some obstacle => simp [verdictOnRun_of_met met] at comes
  | none =>
    rw [verdictOnRun_of_clear met] at comes
    injection comes with comes
    rw [← comes]
    exact plan.failures_of_stopping quickTime plan.fixtures

/-- A run that goes on leaves no fixture out, unless it meets an obstacle. -/
theorem verdictOnRun_of_persisting
    (clear : (plan.persisting fullTime).obstacleMet plan.fixtures = none) :
    (plan.persisting fullTime).verdictOnRun =
      .ok ⟨Tally.ofVerdicts (plan.verdicts plan.fixtures), plan.fixtures.length, false,
        fullTime⟩ := by
  have all := attempted_of_clear plan fullTime clear
  simp only [verdictOnRun_of_clear clear, persisting_fixtures, all, Nat.lt_irrefl, decide_false]
  rfl

/-- The two runs come to the same, with no fixture left out; or the one stops early at a
    failure that the other, if it comes to its end, counts as well. -/
theorem verdictOnRun_cases :
    let quick := (plan.stopping quickTime).verdictOnRun
    let full := (plan.persisting fullTime).verdictOnRun
    let count := plan.fixtures.length
    (∃ obstacle, quick = .error obstacle ∧ full = .error obstacle) ∨
    (∃ tally, quick = .ok ⟨tally, count, false, quickTime⟩ ∧
      full = .ok ⟨tally, count, false, fullTime⟩) ∨
    ∃ tally, quick = .ok ⟨tally, count, true, quickTime⟩ ∧ tally.isClean = false ∧
      ((∃ obstacle, full = .error obstacle) ∨
        ∃ longer, full = .ok ⟨longer, count, false, fullTime⟩ ∧ longer.isClean = false) := by
  intro quick full count
  rcases plan.attempted_cases quickTime fullTime plan.fixtures with
    same | ⟨common, last, rest, judgement, split, more, stops, -, clear, judged, failing⟩
  · have sameMet : (plan.stopping quickTime).obstacleMet plan.fixtures =
        (plan.persisting fullTime).obstacleMet plan.fixtures := by
      simp only [obstacleMet, same]
      rfl
    cases met : (plan.persisting fullTime).obstacleMet plan.fixtures with
    | some obstacle =>
      exact .inl ⟨obstacle, verdictOnRun_of_met (sameMet.trans met), verdictOnRun_of_met met⟩
    | none =>
      have all := attempted_of_clear plan fullTime met
      have quickEnds := verdictOnRun_of_clear (sameMet.trans met)
      simp only [stopping_fixtures, same, all, Nat.lt_irrefl, decide_false] at quickEnds
      exact .inr (.inl ⟨_, quickEnds, plan.verdictOnRun_of_persisting fullTime met⟩)
  · -- The one met no obstacle: it saw those before the failure, and the failure itself.
    have unmet : (plan.stopping quickTime).obstacleMet plan.fixtures = none := by
      rw [obstacleMet, stops, List.findSome?_eq_none_iff]
      intro fixture member
      rcases List.mem_append.mp member with member | member
      · exact clear fixture member
      · obtain rfl := List.mem_singleton.mp member
        exact obstacleOn_of_judged judged
    have left : (common ++ [last]).length < plan.fixtures.length := by
      simpa [split, List.length_pos_iff] using more
    have quickEnds := verdictOnRun_of_clear unmet
    simp only [stopping_fixtures, stops, left, decide_true] at quickEnds
    refine .inr (.inr ⟨_, quickEnds, plan.isClean_of_failing judged failing (by simp), ?_⟩)
    cases met : (plan.persisting fullTime).obstacleMet plan.fixtures with
    | some obstacle => exact .inl ⟨obstacle, verdictOnRun_of_met met⟩
    | none =>
      exact .inr ⟨_, plan.verdictOnRun_of_persisting fullTime met,
        plan.isClean_of_failing judged failing (by simp [split])⟩

theorem verdictOnRun_abridged :
    let quick := (plan.stopping quickTime).verdictOnRun
    let full := (plan.persisting fullTime).verdictOnRun
    (∀ obstacle, quick = .error obstacle → full = .error obstacle) ∧
    (∀ summary, full = .ok summary →
      ∃ shorter, quick = .ok shorter ∧ shorter.exitCode = summary.exitCode) ∧
    (∀ summary obstacle, quick = .ok summary → full = .error obstacle →
      summary.stoppedEarly = true ∧ summary.exitCode = 1) ∧
    ∀ shorter longer, quick = .ok shorter → full = .ok longer →
      (shorter.tally = longer.tally ∧ shorter.fixtureCount = longer.fixtureCount ∧
        shorter.stoppedEarly = longer.stoppedEarly ↔ shorter.stoppedEarly = false) := by
  rcases plan.verdictOnRun_cases quickTime fullTime with
    ⟨obstacle, quickEnds, fullEnds⟩ | ⟨tally, quickEnds, fullEnds⟩ |
    ⟨tally, quickEnds, failing, ⟨obstacle, fullEnds⟩ | ⟨longer, fullEnds, failingToo⟩⟩
  -- Both met the same obstacle.
  · simp [quickEnds, fullEnds]
  -- Both attempted all fixtures.
  · simp [quickEnds, fullEnds, Summary.exitCode]
  -- One stopped early, before an obstacle that the other met.
  · simp [quickEnds, fullEnds, Summary.exitCode, Tally.exitCode, failing]
  -- One stopped early, and the other attempted all fixtures.
  · simp [quickEnds, fullEnds, Summary.exitCode, Tally.exitCode, failing, failingToo]

end Attempted

/-- What is told before the run is completed: its start, and the judgements on the fixtures
    attempted. -/
theorem opening_script (plan : Plan σ) :
    Event.opening (Effect.events plan.script) =
      .started plan.fixtures.length ::
        (plan.attempted plan.fixtures).filterMap fun fixture =>
          (plan.judgement? fixture).map Event.judged := by
  have noneCompletes : ∀ event ∈ (plan.attempted plan.fixtures).filterMap (fun fixture =>
      (plan.judgement? fixture).map Event.judged), event.isOpening = true := by
    intro event told
    obtain ⟨fixture, -, judged⟩ := List.mem_filterMap.mp told
    obtain ⟨judgement, -, rfl⟩ := Option.map_eq_some_iff.mp judged
    rfl
  have closes : (Effect.events plan.closing).takeWhile Event.isOpening = [] := by
    unfold closing
    split <;> rfl
  simp only [script, Effect.events_notified, Effect.events_append, events_course, Event.opening]
  rw [List.takeWhile_cons_of_pos rfl, List.takeWhile_append_of_pos noneCompletes, closes,
    List.append_nil]

/-- How a run that stops at the first failure stands to one that goes on, if both report in
    the same style to the same sink. -/
structure Abridges (style : Style) (sink : Sink) (quick full : Trace Sink Summary) : Prop where
  /-- The sink is left to each of them as its events leave it. -/
  state : ∀ trace ∈ [quick, full],
    trace.state = style.reporter.stateAfter sink (Effect.events trace.effects)
  /-- Whatever the one invokes, the other invokes first. -/
  invoked : Effect.invocations quick.effects <+: Effect.invocations full.effects
  /-- Whatever the one writes before its summary, the other writes first. -/
  written :
    (style.reporter.stateAfter sink (Event.opening (Effect.events quick.effects))).taken <+:
      (style.reporter.stateAfter sink (Event.opening (Effect.events full.effects))).taken
  error : ∀ obstacle, quick.result = .error obstacle → full.result = .error obstacle
  ok : ∀ summary, full.result = .ok summary →
    ∃ shorter, quick.result = .ok shorter ∧ shorter.exitCode = summary.exitCode
  /-- An obstacle that only the other meets comes after a failure. -/
  ahead : ∀ summary obstacle, quick.result = .ok summary → full.result = .error obstacle →
    summary.stoppedEarly = true ∧ summary.exitCode = 1
  few : ∀ summary, quick.result = .ok summary →
    summary.tally.failed + summary.tally.timedOut ≤ 1
  same : ∀ shorter longer, quick.result = .ok shorter → full.result = .ok longer →
    (shorter.tally = longer.tally ∧ shorter.fixtureCount = longer.fixtureCount ∧
      shorter.stoppedEarly = longer.stoppedEarly ↔ shorter.stoppedEarly = false)

/-- Over the same fixtures, with the same subject and convention and with a report none of
    whose calls fails, a run that stops at the first failure abridges one that goes on. -/
theorem failFast_abridges (fixtures : List Fixture) (invoke : Fixture → Observation)
    (expect : Convention) (style : Style) (sink : Sink) (quickTime fullTime : Duration)
    (reliable : style.reporter.Reliable sink) :
    Abridges style sink
      (Plan.run ⟨fixtures, invoke, expect, style.reporter, true, quickTime⟩ sink)
      (Plan.run ⟨fixtures, invoke, expect, style.reporter, false, fullTime⟩ sink) := by
  let plan : Plan Sink := { fixtures, invoke, expect, reporter := style.reporter }
  have quickRuns := (plan.stopping quickTime).run_of_accepts (reliable _)
  have fullRuns := (plan.persisting fullTime).run_of_accepts (reliable _)
  change Abridges style sink ((plan.stopping quickTime).run sink)
    ((plan.persisting fullTime).run sink)
  rw [quickRuns, fullRuns]
  have attempted := plan.attempted_prefix quickTime fullTime fixtures
  obtain ⟨error, ok, ahead, same⟩ := plan.verdictOnRun_abridged quickTime fullTime
  refine ⟨?_, ?_, ?_, error, ok, ahead, fun summary => plan.tally_of_stopping quickTime, same⟩
  · intro trace member
    simp only [List.mem_cons, List.not_mem_nil, or_false] at member
    rcases member with rfl | rfl <;> rfl
  · rw [invocations_script, invocations_script]
    exact attempted
  · have told : Event.opening (Effect.events (plan.stopping quickTime).script) <+:
        Event.opening (Effect.events (plan.persisting fullTime).script) := by
      simp only [opening_script]
      exact List.prefix_cons_iff.mpr (.inr ⟨_, rfl, attempted.filterMap _⟩)
    rw [style.taken_of_accepts (reliable _), style.taken_of_accepts (reliable _)]
    exact (List.prefix_append_right_inj _).mpr (told.flatMap _)

/-- A plan in which a failure comes before an obstacle. -/
def obstacleAhead (failFast : Bool) : Plan Sink where
  fixtures := [⟨"fail-a"⟩, ⟨"b"⟩, ⟨"c"⟩]
  invoke fixture :=
    { value := if fixture = ⟨"c"⟩ then .error (.noSubject ⟨[]⟩) else .ok (.exited 1) }
  expect := .marked "fail"
  reporter := Style.jsonLines.reporter
  failFast := failFast

theorem obstacleAhead_abridged :
    Abridges .jsonLines {} ((obstacleAhead true).run {}) ((obstacleAhead false).run {}) ∧
      ((obstacleAhead true).run {}).result = .ok ⟨⟨1, 1, 0⟩, 3, true, .zero⟩ ∧
      ((obstacleAhead false).run {}).result = .error (.noSubject ⟨[]⟩) := by
  have reliable : Style.jsonLines.reporter.Reliable {} := Style.reliable_of_sound _ ⟨rfl, rfl⟩
  refine ⟨failFast_abridges _ _ _ _ _ _ _ reliable, ?_, ?_⟩
  · rw [(obstacleAhead true).run_of_accepts (reliable _)]
    decide +kernel
  · rw [(obstacleAhead false).run_of_accepts (reliable _)]
    decide +kernel

end Plan

end Conformance
