import Conformance.Proofs.Run.Course

/-! # How runs end

A run calls the reporter and the subject in turn, and any of these calls may fail.  There
are four places where that can happen: at the start, at an invocation, at the report on a
fixture and at the very end; a run in which none of them fails ends with a summary.
`Plan.Ends` lists these five endings with the calls made up to them, whatever the subject
and the reporter do, and everything that is said about aborted runs is read off it.
-/

namespace Conformance

variable {σ : Type}

/-! ## Positions in a list with a last element -/

/-- An element of a list with a new last element is that one if it is not an earlier one. -/
theorem eq_length_of_getElem?_concat {α : Type} {init : List α} {last found : α} {k : Nat}
    (at_k : (init ++ [last])[k]? = some found) (new : found ∉ init) : k = init.length := by
  have bound : k < (init ++ [last]).length := (List.getElem?_eq_some_iff.mp at_k).1
  have not_before : ¬ k < init.length := by
    intro before
    rw [List.getElem?_append_left before] at at_k
    exact new (List.mem_of_getElem? at_k)
  simp only [List.length_append, List.length_singleton] at bound
  omega

theorem eq_nil_of_concat_split {α : Type} {before after init : List α} {found last : α}
    (same : before ++ found :: after = init ++ [last]) (new : found ∉ init) : after = [] := by
  rcases List.eq_nil_or_concat after with empty | ⟨middle, final, rfl⟩
  · exact empty
  · have longer : (before ++ found :: middle) ++ [final] = init ++ [last] := by simpa using same
    have initial := (List.append_inj' longer rfl).1
    exact absurd (by simp [← initial]) new

theorem take_length_succ {α : Type} (init : List α) (last : α) (rest : List α) :
    (init ++ last :: rest).take (init.length + 1) = init ++ [last] := by
  rw [List.append_cons, List.take_left' (by simp)]

/-! ## Calls and their failures -/

namespace Effect

/-- The reports on fixtures, in order, each with the fault if it failed. -/
def reports (effects : List Effect) : List (Judgement × Option IoFault) :=
  effects.filterMap fun
    | .notified (.judged judgement) fault => some (judgement, fault)
    | _ => none

/-- Whether an effect is the call that completes a run. -/
def IsCompletion : Effect → Prop
  | .notified (.completed _) _ => True
  | _ => False

theorem isCompletion_iff {effect : Effect} :
    effect.IsCompletion ↔ ∃ summary fault, effect = .notified (.completed summary) fault := by
  constructor
  · intro completes
    match effect, completes with
    | .notified (.completed summary) fault, _ => exact ⟨summary, fault, rfl⟩
  · rintro ⟨summary, fault, rfl⟩
    trivial

theorem invocations_calls (effects : List Effect) :
    invocations (calls effects) = invocations effects := by
  induction effects with
  | nil => rfl
  | cons effect rest ih => cases effect <;> simp [ih]

theorem reports_calls (effects : List Effect) : reports (calls effects) = reports effects := by
  induction effects with
  | nil => rfl
  | cons effect rest ih =>
    cases effect with
    | invoked fixture => simpa [reports] using ih
    | logged event => simpa [reports] using ih
    | notified event fault => cases event <;> simpa [reports] using ih

@[simp] theorem reports_nil : reports [] = [] := rfl
@[simp] theorem reports_invoked (fixture : Fixture) (rest : List Effect) :
    reports (.invoked fixture :: rest) = reports rest := rfl
@[simp] theorem reports_started (count : Nat) (fault : Option IoFault) (rest : List Effect) :
    reports (.notified (.started count) fault :: rest) = reports rest := rfl
@[simp] theorem reports_judged (judgement : Judgement) (fault : Option IoFault)
    (rest : List Effect) :
    reports (.notified (.judged judgement) fault :: rest) = (judgement, fault) :: reports rest :=
  rfl
@[simp] theorem reports_completed (summary : Summary) (fault : Option IoFault)
    (rest : List Effect) :
    reports (.notified (.completed summary) fault :: rest) = reports rest := rfl
@[simp] theorem reports_append (first second : List Effect) :
    reports (first ++ second) = reports first ++ reports second :=
  List.filterMap_append

theorem notified_mem_calls {event : Event} {fault : Option IoFault} {effects : List Effect} :
    .notified event fault ∈ calls effects ↔ .notified event fault ∈ effects := by
  simp [calls, isCall]

end Effect

namespace Plan

/-- The obstacle a call came to, if it failed: that of the subject as it stands, that of
    the reporter as a failure to report. -/
def obstacleOf (plan : Plan σ) : Effect → Option Obstacle
  | .invoked fixture => plan.obstacleOn fixture
  | .notified _ fault => fault.map .cannotReport
  | .logged _ => none

/-- The calls made about a fixture that is judged and reported. -/
def settling (judgement : Judgement) : List Effect :=
  [.invoked judgement.fixture, .notified (.judged judgement) none]

/-- Judgements that the plan comes to on their fixtures. -/
def Settles (plan : Plan σ) (settled : List Judgement) : Prop :=
  ∀ judgement ∈ settled, plan.judgement? judgement.fixture = some judgement

theorem Settles.obstacleOn {plan : Plan σ} {settled : List Judgement} {fixture : Fixture}
    (settles : plan.Settles settled) (member : fixture ∈ settled.map (·.fixture)) :
    plan.obstacleOn fixture = none := by
  obtain ⟨judgement, settled, rfl⟩ := List.mem_map.mp member
  exact obstacleOn_of_judged (settles judgement settled)

@[simp] theorem invocations_settling (settled : List Judgement) :
    Effect.invocations (settled.flatMap settling) = settled.map (·.fixture) := by
  induction settled with
  | nil => rfl
  | cons judgement settled ih => simp [settling, ih]

@[simp] theorem reports_settling (settled : List Judgement) :
    Effect.reports (settled.flatMap settling) = settled.map fun judgement => (judgement, none) := by
  induction settled with
  | nil => rfl
  | cons judgement settled ih => simp [settling, ih]

theorem Settles.calls_succeed {plan : Plan σ} {settled : List Judgement} {call : Effect}
    (settles : plan.Settles settled) (made : call ∈ settled.flatMap settling) :
    plan.obstacleOf call = none ∧ ¬ call.IsCompletion := by
  obtain ⟨judgement, member, made⟩ := List.mem_flatMap.mp made
  simp only [settling, List.mem_cons, List.not_mem_nil, or_false] at made
  rcases made with rfl | rfl
  · exact ⟨obstacleOn_of_judged (settles judgement member), id⟩
  · exact ⟨rfl, id⟩

/-! ## The endings -/

/-- How attempting fixtures can end, by the calls made and by what it comes to.  Those that
    are settled were invoked and reported without a failure. -/
inductive Halts (plan : Plan σ) (fixtures : List Fixture) :
    List Effect → Except Obstacle Attempts → Prop
  | finished (settled : List Judgement) (rest : List Fixture) (attempts : Attempts)
      (split : fixtures = settled.map (·.fixture) ++ rest) (settles : plan.Settles settled) :
      Halts plan fixtures (settled.flatMap settling) (.ok attempts)
  | obstructed (settled : List Judgement) (fixture : Fixture) (rest : List Fixture)
      (obstacle : Obstacle) (split : fixtures = settled.map (·.fixture) ++ fixture :: rest)
      (settles : plan.Settles settled) (met : plan.obstacleOn fixture = some obstacle) :
      Halts plan fixtures (settled.flatMap settling ++ [.invoked fixture]) (.error obstacle)
  | unreported (settled : List Judgement) (judgement : Judgement) (rest : List Fixture)
      (cause : IoFault) (split : fixtures = settled.map (·.fixture) ++ judgement.fixture :: rest)
      (settles : plan.Settles settled)
      (judged : plan.judgement? judgement.fixture = some judgement) :
      Halts plan fixtures
        (settled.flatMap settling ++
          [.invoked judgement.fixture, .notified (.judged judgement) (some cause)])
        (.error (.cannotReport cause))

/-- A fixture settled before the others does not change how they end. -/
theorem Halts.cons {plan : Plan σ} {fixtures : List Fixture} {calls : List Effect}
    {result : Except Obstacle Attempts} {judgement : Judgement}
    (halts : plan.Halts fixtures calls result)
    (judged : plan.judgement? judgement.fixture = some judgement) :
    plan.Halts (judgement.fixture :: fixtures) (settling judgement ++ calls) result := by
  have extended {settled : List Judgement} (settles : plan.Settles settled) :
      plan.Settles (judgement :: settled) := by
    intro other member
    rcases List.mem_cons.mp member with rfl | member
    · exact judged
    · exact settles other member
  cases halts with
  | finished settled rest attempts split settles =>
    exact .finished (judgement :: settled) rest attempts (by simp [split]) (extended settles)
  | obstructed settled fixture rest obstacle split settles met =>
    rw [← List.append_assoc]
    exact .obstructed (judgement :: settled) fixture rest obstacle (by simp [split])
      (extended settles) met
  | unreported settled failing rest cause split settles failingJudged =>
    rw [← List.append_assoc]
    exact .unreported (judgement :: settled) failing rest cause (by simp [split])
      (extended settles) failingJudged

theorem calls_reporting (plan : Plan σ) (fixture : Fixture) (judgement : Judgement)
    (fault : Option IoFault) :
    Effect.calls (plan.reporting fixture judgement fault) =
      [.invoked fixture, .notified (.judged judgement) fault] := by
  simp [reporting]

theorem attempt_halts (plan : Plan σ) (tally : Tally) (state : σ) (fixtures : List Fixture) :
    plan.Halts fixtures (Effect.calls (plan.attempt tally state fixtures).effects)
      (plan.attempt tally state fixtures).result := by
  have nothing : plan.Settles [] := by simp [Settles]
  -- Each fixture either ends the matter or is settled, and then comes before the others.
  induction fixtures generalizing tally state with
  | nil => exact .finished [] [] _ rfl nothing
  | cons fixture rest ih =>
    cases observed : (plan.invoke fixture).value with
    | error obstacle =>
      rw [attempt_of_error observed, effectsOn_of_error observed, Effect.calls_invoked,
        Effect.calls_map_logged]
      exact .obstructed [] fixture rest obstacle rfl nothing (obstacleOn_of_error observed)
    | ok invocation =>
      have judged : plan.judgement? (plan.judgement fixture invocation).fixture =
          some (plan.judgement fixture invocation) := judgement?_of_ok observed
      rcases told : plan.reporter.notify state (.judged (plan.judgement fixture invocation)) with
        ⟨next, _ | cause⟩
      · cases stops :
          (plan.failFast && !(plan.judgement fixture invocation).verdict.isSuccess) with
        | true =>
          -- Stopping early is logged at most, which is no call.
          have noCalls : Effect.calls
              (if rest.isEmpty then [] else [.logged (.stoppingEarly rest.length)]) = [] := by
            split <;> rfl
          rw [attempt_of_stop observed told stops, Effect.calls_append, noCalls,
            effectsOn_of_ok observed, calls_reporting]
          exact Halts.cons (.finished [] rest _ rfl nothing) judged
        | false =>
          rw [attempt_of_next observed told stops, Trace.after_effects, Effect.calls_append,
            effectsOn_of_ok observed, calls_reporting]
          exact (ih _ next).cons judged
      · rw [attempt_of_fault observed told, calls_reporting]
        exact .unreported [] (plan.judgement fixture invocation) rest cause rfl nothing judged

/-- How a run can end, by the calls made and by its result.  The call at the start comes
    first in every case; what follows it are the calls about fixtures and, if nothing
    failed so far, the call at the end. -/
inductive Ends (plan : Plan σ) : List Effect → Except Obstacle Summary → Prop
  | unstarted (cause : IoFault) :
      Ends plan [.notified (.started plan.fixtures.length) (some cause)]
        (.error (.cannotReport cause))
  | halted (calls : List Effect) (obstacle : Obstacle)
      (halts : plan.Halts plan.fixtures calls (.error obstacle)) :
      Ends plan (.notified (.started plan.fixtures.length) none :: calls) (.error obstacle)
  | uncompleted (calls : List Effect) (attempts : Attempts) (cause : IoFault)
      (halts : plan.Halts plan.fixtures calls (.ok attempts)) :
      Ends plan
        (.notified (.started plan.fixtures.length) none ::
          (calls ++ [.notified (.completed (plan.summary attempts)) (some cause)]))
        (.error (.cannotReport cause))
  | completed (calls : List Effect) (attempts : Attempts)
      (halts : plan.Halts plan.fixtures calls (.ok attempts)) :
      Ends plan
        (.notified (.started plan.fixtures.length) none ::
          (calls ++ [.notified (.completed (plan.summary attempts)) none]))
        (.ok (plan.summary attempts))

theorem run_ends (plan : Plan σ) (state : σ) :
    plan.Ends (Effect.calls (plan.run state).effects) (plan.run state).result := by
  rcases told : plan.reporter.notify state (.started plan.fixtures.length) with ⟨next, _ | cause⟩
  · have halts := plan.attempt_halts {} next plan.fixtures
    cases attempted : (plan.attempt {} next plan.fixtures).result with
    | error obstacle =>
      rw [attempted] at halts
      simp only [run, told, attempted]
      exact .halted _ obstacle halts
    | ok attempts =>
      rw [attempted] at halts
      rcases last : plan.reporter.notify (plan.attempt {} next plan.fixtures).state
          (.completed (plan.summary attempts)) with ⟨final, _ | cause⟩
      · simp only [run, told, attempted, complete, last, Trace.after_effects, Trace.after_result,
          Effect.calls_append, Effect.calls_notified, Effect.calls_nil, List.cons_append,
          List.nil_append]
        exact .completed _ attempts halts
      · simp only [run, told, attempted, complete, last, Trace.after_effects, Trace.after_result,
          Effect.calls_append, Effect.calls_notified, Effect.calls_nil, List.cons_append,
          List.nil_append]
        exact .uncompleted _ attempts cause halts
  · simp only [run, told]
    exact .unstarted cause

/-! ## What follows from an ending -/

section Consequences

variable {plan : Plan σ} {fixtures : List Fixture} {calls : List Effect} {k : Nat}

theorem Halts.not_completion {result : Except Obstacle Attempts} {call : Effect}
    (halts : plan.Halts fixtures calls result) (made : call ∈ calls) : ¬ call.IsCompletion := by
  cases halts with
  | finished settled rest attempts split settles => exact (settles.calls_succeed made).2
  | obstructed settled fixture rest obstacle split settles met =>
    rcases List.mem_append.mp made with made | made
    · exact (settles.calls_succeed made).2
    · obtain rfl := List.mem_singleton.mp made
      exact id
  | unreported settled judgement rest cause split settles judged =>
    rcases List.mem_append.mp made with made | made
    · exact (settles.calls_succeed made).2
    · simp only [List.mem_cons, List.not_mem_nil, or_false] at made
      rcases made with rfl | rfl <;> exact id

/-- If fixtures were attempted to an end, no call failed; otherwise the last one did, and
    no other. -/
theorem Halts.calls_fail {result : Except Obstacle Attempts}
    (halts : plan.Halts fixtures calls result) :
    match result with
    | .ok _ => ∀ call ∈ calls, plan.obstacleOf call = none
    | .error obstacle => ∃ before last, calls = before ++ [last] ∧
        (∀ call ∈ before, plan.obstacleOf call = none) ∧ plan.obstacleOf last = some obstacle := by
  cases halts with
  | finished settled rest attempts split settles =>
    exact fun call made => (settles.calls_succeed made).1
  | obstructed settled fixture rest obstacle split settles met =>
    exact ⟨_, _, rfl, fun call made => (settles.calls_succeed made).1, met⟩
  | unreported settled judgement rest cause split settles judged =>
    refine ⟨settled.flatMap settling ++ [.invoked judgement.fixture],
      .notified (.judged judgement) (some cause), by simp, ?_, rfl⟩
    intro call made
    rcases List.mem_append.mp made with made | made
    · exact (settles.calls_succeed made).1
    · obtain rfl := List.mem_singleton.mp made
      exact obstacleOn_of_judged judged

/-- If the subject could not be observed on a fixture, that is the last one invoked, and
    exactly those before it have been reported. -/
theorem Halts.unobserved {result : Except Obstacle Attempts} {fixture : Fixture}
    {obstacle : Obstacle} (halts : plan.Halts fixtures calls result)
    (invoked : (Effect.invocations calls)[k]? = some fixture)
    (met : plan.obstacleOn fixture = some obstacle) :
    (∃ failed, result = .error failed) ∧ Effect.invocations calls = fixtures.take (k + 1) ∧
      (Effect.reports calls).map (·.1.fixture) = fixtures.take k := by
  have unsettled {settled : List Judgement} (settles : plan.Settles settled) :
      fixture ∉ settled.map (·.fixture) := by
    intro member
    simp [settles.obstacleOn member] at met
  cases halts with
  | finished settled rest attempts split settles =>
    simp only [invocations_settling] at invoked
    exact absurd (List.mem_of_getElem? invoked) (unsettled settles)
  | obstructed settled last rest _ split settles _ =>
    -- The fixture is none of the settled ones, so it is the one after them.
    simp only [Effect.invocations_append, invocations_settling, Effect.invocations_invoked,
      Effect.invocations_nil] at invoked ⊢
    have position := eq_length_of_getElem?_concat invoked (unsettled settles)
    subst position split
    refine ⟨⟨_, rfl⟩, (take_length_succ _ _ _).symm, ?_⟩
    simp
  | unreported settled judgement rest cause split settles judged =>
    simp only [Effect.invocations_append, invocations_settling, Effect.invocations_invoked,
      Effect.invocations_notified, Effect.invocations_nil] at invoked
    rcases List.mem_append.mp (List.mem_of_getElem? invoked) with member | member
    · exact absurd member (unsettled settles)
    · obtain rfl := List.mem_singleton.mp member
      simp [obstacleOn_of_judged judged] at met

theorem Halts.report_failed {result : Except Obstacle Attempts} {judgement : Judgement}
    {cause : IoFault} (halts : plan.Halts fixtures calls result)
    (reported : (Effect.reports calls)[k]? = some (judgement, some cause)) :
    fixtures[k]? = some judgement.fixture ∧
      Effect.invocations calls = fixtures.take (k + 1) := by
  have unsettled (settled : List Judgement) :
      (judgement, some cause) ∉ settled.map fun judgement => (judgement, none) := by
    simp
  cases halts with
  | finished settled rest attempts split settles =>
    simp only [reports_settling] at reported
    exact absurd (List.mem_of_getElem? reported) (unsettled settled)
  | obstructed settled fixture rest obstacle split settles met =>
    simp only [Effect.reports_append, reports_settling, Effect.reports_invoked,
      Effect.reports_nil, List.append_nil] at reported
    exact absurd (List.mem_of_getElem? reported) (unsettled settled)
  | unreported settled failing rest _ split settles judged =>
    simp only [Effect.reports_append, reports_settling, Effect.reports_invoked,
      Effect.reports_judged, Effect.reports_nil] at reported
    -- No report on a settled fixture failed, so this is the one after those.
    have position : k = (settled.map (·.fixture)).length := by
      simpa using eq_length_of_getElem?_concat reported (unsettled settled)
    obtain ⟨rfl, -⟩ : failing = judgement ∧ _ = cause := by simpa [position] using reported
    subst position split
    rw [take_length_succ]
    simp

/-- In every ending all calls but the last one succeeded, and the result is an error
    exactly if the last one failed, namely with its error. -/
theorem Ends.last_call {result : Except Obstacle Summary} (ends : plan.Ends calls result) :
    ∃ before last, calls = before ++ [last] ∧
      (∀ call ∈ before, plan.obstacleOf call = none) ∧
      ∀ obstacle, result = .error obstacle ↔ plan.obstacleOf last = some obstacle := by
  cases ends with
  | unstarted cause => exact ⟨[], _, rfl, by simp, by simp [obstacleOf]⟩
  | halted calls obstacle halts =>
    obtain ⟨before, last, rfl, succeeded, failed⟩ := halts.calls_fail
    refine ⟨.notified (.started plan.fixtures.length) none :: before, last, rfl, ?_, ?_⟩
    · simpa [obstacleOf] using succeeded
    · simp [failed]
  | uncompleted calls attempts cause halts =>
    refine ⟨.notified (.started plan.fixtures.length) none :: calls, _, rfl, ?_, ?_⟩
    · simpa [obstacleOf] using halts.calls_fail
    · simp [obstacleOf]
  | completed calls attempts halts =>
    refine ⟨.notified (.started plan.fixtures.length) none :: calls, _, rfl, ?_, ?_⟩
    · simpa [obstacleOf] using halts.calls_fail
    · simp [obstacleOf]

theorem Ends.failed_iff {result : Except Obstacle Summary} (ends : plan.Ends calls result) :
    (∃ obstacle, result = .error obstacle) ↔ ∃ call ∈ calls, plan.obstacleOf call ≠ none := by
  obtain ⟨before, last, rfl, succeeded, failed⟩ := ends.last_call
  constructor
  · rintro ⟨obstacle, failure⟩
    exact ⟨last, by simp, by simp [(failed obstacle).mp failure]⟩
  · rintro ⟨call, made, fails⟩
    rw [List.mem_append, List.mem_singleton] at made
    rcases made with made | rfl
    · exact absurd (succeeded call made) fails
    · obtain ⟨obstacle, met⟩ := Option.ne_none_iff_exists'.mp fails
      exact ⟨obstacle, (failed obstacle).mpr met⟩

theorem Ends.unobserved {result : Except Obstacle Summary} {fixture : Fixture}
    {obstacle : Obstacle} (ends : plan.Ends calls result)
    (invoked : (Effect.invocations calls)[k]? = some fixture)
    (met : plan.obstacleOn fixture = some obstacle) :
    Effect.invocations calls = plan.fixtures.take (k + 1) ∧
      (Effect.reports calls).map (·.1.fixture) = plan.fixtures.take k ∧
      ∀ call ∈ calls, ¬ call.IsCompletion := by
  cases ends with
  | unstarted cause => simp at invoked
  | halted calls obstacle halts =>
    obtain ⟨-, invocations, reports⟩ := halts.unobserved invoked met
    refine ⟨invocations, reports, ?_⟩
    intro call made
    rcases List.mem_cons.mp made with rfl | made
    · exact id
    · exact halts.not_completion made
  | uncompleted calls attempts cause halts | completed calls attempts halts =>
    obtain ⟨⟨failed, impossible⟩, -⟩ := halts.unobserved (by simpa using invoked) met
    contradiction

theorem Ends.report_failed {result : Except Obstacle Summary} {judgement : Judgement}
    {cause : IoFault} (ends : plan.Ends calls result)
    (reported : (Effect.reports calls)[k]? = some (judgement, some cause)) :
    plan.fixtures[k]? = some judgement.fixture ∧
      Effect.invocations calls = plan.fixtures.take (k + 1) := by
  cases ends with
  | unstarted cause => simp at reported
  | halted calls obstacle halts => exact halts.report_failed reported
  | uncompleted calls attempts cause halts | completed calls attempts halts =>
    simpa using halts.report_failed (by simpa using reported)

theorem Ends.completion_iff {result : Except Obstacle Summary} (ends : plan.Ends calls result) :
    (∃ call ∈ calls, call.IsCompletion) ↔
      ∀ call ∈ calls, ¬ call.IsCompletion → plan.obstacleOf call = none := by
  cases ends with
  | unstarted cause => simp [Effect.IsCompletion, obstacleOf]
  | halted calls obstacle halts =>
    obtain ⟨before, last, same, -, failed⟩ := halts.calls_fail
    have made : last ∈ calls := by simp [same]
    have neverCompleted : ∀ call ∈ calls, ¬ call.IsCompletion := fun call => halts.not_completion
    constructor
    · rintro ⟨call, made, completes⟩
      rcases List.mem_cons.mp made with rfl | made
      · exact completes.elim
      · exact absurd completes (neverCompleted call made)
    · intro succeeded
      have := succeeded last (List.mem_cons_of_mem _ made) (neverCompleted last made)
      simp [this] at failed
  | uncompleted calls attempts cause halts | completed calls attempts halts =>
    have succeeded : ∀ call ∈ calls, plan.obstacleOf call = none := halts.calls_fail
    refine iff_of_true
      ⟨_, List.mem_cons_of_mem _ (List.mem_append_right _ (List.mem_singleton_self _)), trivial⟩ ?_
    intro call made incomplete
    simp only [List.mem_cons, List.mem_append, List.not_mem_nil, or_false] at made
    rcases made with rfl | made | rfl
    · rfl
    · exact succeeded call made
    · exact absurd trivial incomplete

/-- The run ends with a summary exactly if the call that completes it was made with this
    summary and did not fail. -/
theorem Ends.ok_iff {result : Except Obstacle Summary} {summary : Summary}
    (ends : plan.Ends calls result) :
    result = .ok summary ↔ .notified (.completed summary) none ∈ calls := by
  cases ends with
  | unstarted cause => simp
  | halted calls obstacle halts =>
    have neverCompleted : .notified (.completed summary) none ∉ calls := fun made =>
      halts.not_completion made trivial
    simp [neverCompleted]
  | uncompleted calls attempts cause halts | completed calls attempts halts =>
    have notBefore : .notified (.completed summary) none ∉ calls := fun made =>
      halts.not_completion made trivial
    simp [notBefore, eq_comm]

end Consequences

/-- How a run is aborted, whatever the subject and the reporter do.  The reporter's state
    follows from what it was told, and every fault in the trace is its answer in the state it
    was in.  Nothing follows a call that failed; the
    run fails exactly if some call did, with the error of the last one.  An invocation that
    failed was not reported but all before it were, a report that failed was on the fixture
    invoked last, and the run is completed exactly if nothing failed before. -/
theorem run_aborts (plan : Plan σ) (state : σ) :
    let trace := plan.run state
    let calls := Effect.calls trace.effects
    let invoked := Effect.invocations trace.effects
    let reports := Effect.reports trace.effects
    trace.state = plan.reporter.stateAfter state (Effect.events trace.effects) ∧
    (∀ before event fault after, trace.effects = before ++ .notified event fault :: after →
      fault =
        (plan.reporter.notify (plan.reporter.stateAfter state (Effect.events before)) event).2) ∧
    (∀ before call after, calls = before ++ call :: after → plan.obstacleOf call ≠ none →
      after = []) ∧
    ((∃ obstacle, trace.result = .error obstacle) ↔
      ∃ call ∈ calls, plan.obstacleOf call ≠ none) ∧
    (∀ obstacle, trace.result = .error obstacle ↔
      ∃ call, calls.getLast? = some call ∧ plan.obstacleOf call = some obstacle) ∧
    (∀ k fixture obstacle, invoked[k]? = some fixture →
      (plan.invoke fixture).value = .error obstacle →
      invoked = plan.fixtures.take (k + 1) ∧
        reports.map (·.1.fixture) = plan.fixtures.take k ∧
        ∀ summary fault, .notified (.completed summary) fault ∉ trace.effects) ∧
    (∀ k judgement cause, reports[k]? = some (judgement, some cause) →
      plan.fixtures[k]? = some judgement.fixture ∧ invoked = plan.fixtures.take (k + 1)) ∧
    ((∃ summary fault, .notified (.completed summary) fault ∈ trace.effects) ↔
      ∀ call ∈ calls, ¬ call.IsCompletion → plan.obstacleOf call = none) ∧
    ∀ summary, trace.result = .ok summary ↔
      .notified (.completed summary) none ∈ trace.effects := by
  intro trace calls invoked reports
  have ends : plan.Ends calls trace.result := plan.run_ends state
  have invokedCalls : Effect.invocations calls = invoked := Effect.invocations_calls _
  have reportsCalls : Effect.reports calls = reports := Effect.reports_calls _
  obtain ⟨before, last, split, succeeded, failed⟩ := ends.last_call
  refine ⟨?_, ?_, ?_, ?_, ?_, ?_, ?_, ?_, ?_⟩
  · rw [show trace = _ from plan.run_eq_relay state]
    exact Reporter.relay_state ..
  · intro before event fault after split
    rw [show trace = _ from plan.run_eq_relay state] at split
    exact Reporter.relay_fault split
  · intro earlier call after cut fails
    rw [split] at cut
    exact eq_nil_of_concat_split cut.symm fun member => fails (succeeded call member)
  · exact ends.failed_iff
  · intro obstacle
    rw [failed obstacle, split]
    simp
  · intro k fixture obstacle called unobserved
    rw [← invokedCalls] at called ⊢
    rw [← reportsCalls]
    obtain ⟨invocations, reported, neverCompleted⟩ :=
      ends.unobserved called (obstacleOn_of_error unobserved)
    refine ⟨invocations, reported, ?_⟩
    intro summary fault completed
    exact neverCompleted _ (Effect.notified_mem_calls.mpr completed) trivial
  · intro k judgement cause reported
    rw [← invokedCalls]
    exact ends.report_failed (reportsCalls ▸ reported)
  · rw [← ends.completion_iff]
    constructor
    · rintro ⟨summary, fault, made⟩
      exact ⟨_, Effect.notified_mem_calls.mpr made, trivial⟩
    · rintro ⟨call, made, completes⟩
      obtain ⟨summary, fault, rfl⟩ := Effect.isCompletion_iff.mp completes
      exact ⟨summary, fault, Effect.notified_mem_calls.mp made⟩
  · intro summary
    rw [ends.ok_iff, Effect.notified_mem_calls]

/-- A plan with three fixtures that succeed and a reporter that counts its calls, the third
    of which fails. -/
def faultMidway : Plan Nat where
  fixtures := [⟨"a"⟩, ⟨"b"⟩, ⟨"c"⟩]
  invoke _ := { value := .ok (.exited 0) }
  expect := .marked "fail"
  reporter := ⟨fun count _ => (count + 1, if count = 2 then some .noSpace else none)⟩

theorem faultMidway_aborts :
    (faultMidway.run 0).result = .error (.cannotReport .noSpace) ∧
      Effect.invocations (faultMidway.run 0).effects = [⟨"a"⟩, ⟨"b"⟩] := by
  obtain ⟨-, -, -, -, -, -, unreported, -⟩ := faultMidway.run_aborts 0
  have reported : (Effect.reports (faultMidway.run 0).effects)[1]? =
      some (⟨⟨"b"⟩, .accepted, .succeeded, .exited 0⟩, some .noSpace) := by decide +kernel
  exact ⟨rfl, (unreported 1 _ _ reported).2⟩

end Plan

end Conformance
