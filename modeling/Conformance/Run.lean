import Conformance.Log
import Conformance.Report.Delivery

/-! # Runs

A run invokes the subject on one fixture after the other, judges each result and tells
a reporter about it.  The first call that fails, be it an invocation or a call of the
reporter, ends the run with its error; a run that is to stop at the first failure ends
there with a summary.

`Plan.run` returns the whole trace of the run: every effect in order, the reporter's
last state, and the result.
-/

namespace Conformance

/-- What came of invoking the subject on a fixture. -/
abbrev Observation := Logged (Except Obstacle Invocation)

/-- Everything a run depends on. -/
structure Plan (σ : Type) where
  /-- The fixtures, in the order in which they are attempted. -/
  fixtures : List Fixture
  /-- What the subject does on a fixture. -/
  invoke : Fixture → Observation
  /-- What is expected on a fixture. -/
  expect : Convention
  /-- Who is told about the run. -/
  reporter : Reporter σ
  /-- Whether the run stops at the first verdict that is not a success. -/
  failFast : Bool := false
  /-- How long the run takes by the clock. -/
  elapsed : Duration := .zero

/-- An effect of a run. -/
inductive Effect where
  | invoked (fixture : Fixture)
  | notified (event : Event) (fault : Option IoFault)
  | logged (event : LogEvent)
deriving DecidableEq

/-- A run, or a part of one: its effects in order, the reporter's state after them, and
    what it came to. -/
structure Trace (σ α : Type) where
  effects : List Effect
  state : σ
  result : Except Obstacle α

/-- The same part of a run, with effects before it. -/
def Trace.after {σ α : Type} (trace : Trace σ α) (effects : List Effect) : Trace σ α :=
  { trace with effects := effects ++ trace.effects }

/-- What the fixtures of a run came to: the tally, and whether some were left out. -/
structure Attempts where
  tally : Tally
  stoppedEarly : Bool
deriving DecidableEq

namespace Plan

variable {σ : Type}

/-- The judgement on a fixture with the given result. -/
def judgement (plan : Plan σ) (fixture : Fixture) (invocation : Invocation) : Judgement :=
  let expected := plan.expect fixture
  ⟨fixture, expected, invocation.verdict expected, invocation⟩

/-- What is logged about a judged fixture. -/
def judgedLog (judgement : Judgement) : LogEvent :=
  .judged judgement.fixture judgement.expected judgement.verdict

/-- Attempts the given fixtures, starting from a tally and a reporter's state. -/
def attempt (plan : Plan σ) (tally : Tally) (state : σ) : List Fixture → Trace σ Attempts
  | [] => ⟨[], state, .ok ⟨tally, false⟩⟩
  | fixture :: rest =>
    let observed := plan.invoke fixture
    let seen := .invoked fixture :: observed.logs.map .logged
    match observed.value with
    | .error obstacle => ⟨seen, state, .error obstacle⟩
    | .ok invocation =>
      let judgement := plan.judgement fixture invocation
      let tally := tally.add judgement.verdict
      let (state, fault) := plan.reporter.notify state (.judged judgement)
      let done := seen ++ [.logged (judgedLog judgement), .notified (.judged judgement) fault]
      match fault with
      | some cause => ⟨done, state, .error (.cannotReport cause)⟩
      | none =>
        if plan.failFast && !judgement.verdict.isSuccess then
          if rest.isEmpty then ⟨done, state, .ok ⟨tally, false⟩⟩
          else ⟨done ++ [.logged (.stoppingEarly rest.length)], state, .ok ⟨tally, true⟩⟩
        else (plan.attempt tally state rest).after done

/-- The summary of a run whose fixtures came to `attempts`. -/
def summary (plan : Plan σ) (attempts : Attempts) : Summary :=
  ⟨attempts.tally, plan.fixtures.length, attempts.stoppedEarly, plan.elapsed⟩

/-- Tells the reporter that the run is complete. -/
def complete (plan : Plan σ) (state : σ) (attempts : Attempts) : Trace σ Summary :=
  let summary := plan.summary attempts
  let (state, fault) := plan.reporter.notify state (.completed summary)
  let told := [.notified (.completed summary) fault]
  match fault with
  | some cause => ⟨told, state, .error (.cannotReport cause)⟩
  | none => ⟨told, state, .ok summary⟩

/-- Runs the subject on every fixture of the plan. -/
def run (plan : Plan σ) (state : σ) : Trace σ Summary :=
  let (state, fault) := plan.reporter.notify state (.started plan.fixtures.length)
  let started := [.notified (.started plan.fixtures.length) fault]
  match fault with
  | some cause => ⟨started, state, .error (.cannotReport cause)⟩
  | none =>
    let attempted := plan.attempt {} state plan.fixtures
    match attempted.result with
    | .error obstacle => ⟨started ++ attempted.effects, attempted.state, .error obstacle⟩
    | .ok attempts =>
      (plan.complete attempted.state attempts).after (started ++ attempted.effects)

end Plan

/-! ## Reading a trace -/

/-- The fixtures invoked, in order. -/
def Effect.invocations (effects : List Effect) : List Fixture :=
  effects.filterMap fun
    | .invoked fixture => some fixture
    | _ => none

/-- The events logged, in order. -/
def Effect.logs (effects : List Effect) : List LogEvent :=
  effects.filterMap fun
    | .logged event => some event
    | _ => none

end Conformance
