import Conformance.Run

/-! # The course of a run

Which fixtures a run attempts, what it does about each of them and what it comes to is
decided by the fixtures, the subject and the convention.  The reporter only decides how
far the run gets: it is told the events of the course one after the other, and the first
call that fails ends the run.

* `Plan.attempted`, `Plan.effectsOn` and `Plan.outcome` describe the course without the
  reporter and without a tally that is carried along.
* `Reporter.relay` tells a reporter about a course.
* `run_eq_relay` ties the two to the run itself; every law of runs rests on it.
-/

namespace Conformance

variable {σ α : Type}

/-! ## Views of effects -/

namespace Effect

/-- The events a reporter was told, in order. -/
def events (effects : List Effect) : List Event :=
  effects.filterMap fun
    | .notified event _ => some event
    | _ => none

/-- Whether an effect is a call of the subject or of the reporter. -/
def isCall : Effect → Bool
  | .invoked _ | .notified _ _ => true
  | .logged _ => false

/-- The calls among effects, in order. -/
def calls (effects : List Effect) : List Effect := effects.filter isCall

/-- Effects among which no call of a reporter failed. -/
def Faultless (effects : List Effect) : Prop :=
  ∀ event cause, .notified event (some cause) ∉ effects

@[simp] theorem invocations_nil : invocations [] = [] := rfl
@[simp] theorem invocations_invoked (fixture : Fixture) (rest : List Effect) :
    invocations (.invoked fixture :: rest) = fixture :: invocations rest := rfl
@[simp] theorem invocations_notified (event : Event) (fault : Option IoFault)
    (rest : List Effect) : invocations (.notified event fault :: rest) = invocations rest := rfl
@[simp] theorem invocations_logged (event : LogEvent) (rest : List Effect) :
    invocations (.logged event :: rest) = invocations rest := rfl
@[simp] theorem invocations_append (first second : List Effect) :
    invocations (first ++ second) = invocations first ++ invocations second :=
  List.filterMap_append

@[simp] theorem events_nil : events [] = [] := rfl
@[simp] theorem events_invoked (fixture : Fixture) (rest : List Effect) :
    events (.invoked fixture :: rest) = events rest := rfl
@[simp] theorem events_notified (event : Event) (fault : Option IoFault)
    (rest : List Effect) : events (.notified event fault :: rest) = event :: events rest := rfl
@[simp] theorem events_logged (event : LogEvent) (rest : List Effect) :
    events (.logged event :: rest) = events rest := rfl
@[simp] theorem events_append (first second : List Effect) :
    events (first ++ second) = events first ++ events second :=
  List.filterMap_append

@[simp] theorem calls_nil : calls [] = [] := rfl
@[simp] theorem calls_invoked (fixture : Fixture) (rest : List Effect) :
    calls (.invoked fixture :: rest) = .invoked fixture :: calls rest := rfl
@[simp] theorem calls_notified (event : Event) (fault : Option IoFault)
    (rest : List Effect) :
    calls (.notified event fault :: rest) = .notified event fault :: calls rest := rfl
@[simp] theorem calls_logged (event : LogEvent) (rest : List Effect) :
    calls (.logged event :: rest) = calls rest := rfl
@[simp] theorem calls_append (first second : List Effect) :
    calls (first ++ second) = calls first ++ calls second :=
  List.filter_append ..

theorem mem_invocations {effects : List Effect} {fixture : Fixture} :
    fixture ∈ invocations effects ↔ .invoked fixture ∈ effects := by
  induction effects with
  | nil => simp
  | cons effect rest ih => cases effect <;> simp [ih]

@[simp] theorem invocations_map_logged (logs : List LogEvent) :
    invocations (logs.map .logged) = [] := by
  induction logs with
  | nil => rfl
  | cons log logs ih => simpa using ih

@[simp] theorem events_map_logged (logs : List LogEvent) : events (logs.map .logged) = [] := by
  induction logs with
  | nil => rfl
  | cons log logs ih => simpa using ih

@[simp] theorem calls_map_logged (logs : List LogEvent) : calls (logs.map .logged) = [] := by
  induction logs with
  | nil => rfl
  | cons log logs ih => simpa using ih

end Effect

/-! ## Telling a reporter -/

namespace Trace

@[simp] theorem after_effects (trace : Trace σ α) (effects : List Effect) :
    (trace.after effects).effects = effects ++ trace.effects := rfl
@[simp] theorem after_state (trace : Trace σ α) (effects : List Effect) :
    (trace.after effects).state = trace.state := rfl
@[simp] theorem after_result (trace : Trace σ α) (effects : List Effect) :
    (trace.after effects).result = trace.result := rfl

@[simp] theorem after_nil (trace : Trace σ α) : trace.after [] = trace := rfl

theorem after_after (trace : Trace σ α) (first second : List Effect) :
    (trace.after second).after first = trace.after (first ++ second) := by
  simp [after]

end Trace

namespace Reporter

/-- The reporter's state once it was told events, whether or not calls failed. -/
def stateAfter (reporter : Reporter σ) (state : σ) (events : List Event) : σ :=
  events.foldl (fun state event => (reporter.notify state event).1) state

/-- From this state on, the reporter can be told events without a call that fails. -/
def Accepts (reporter : Reporter σ) : σ → List Event → Prop
  | _, [] => True
  | state, event :: events =>
    (reporter.notify state event).2 = none ∧
      reporter.Accepts (reporter.notify state event).1 events

/-- A reporter none of whose calls fails from this state on, whatever it is told. -/
def Reliable (reporter : Reporter σ) (state : σ) : Prop :=
  ∀ events, reporter.Accepts state events

/-- Goes through the effects of a course and tells the reporter about each event.  The
    first call that fails is the last effect; if none does, the course comes to `result`. -/
def relay (reporter : Reporter σ) (result : Except Obstacle α) :
    σ → List Effect → Trace σ α
  | state, [] => ⟨[], state, result⟩
  | state, .invoked fixture :: rest => (reporter.relay result state rest).after [.invoked fixture]
  | state, .logged event :: rest => (reporter.relay result state rest).after [.logged event]
  | state, .notified event _ :: rest =>
    match reporter.notify state event with
    | (next, some cause) => ⟨[.notified event (some cause)], next, .error (.cannotReport cause)⟩
    | (next, none) => (reporter.relay result next rest).after [.notified event none]

@[simp] theorem stateAfter_nil (reporter : Reporter σ) (state : σ) :
    reporter.stateAfter state [] = state := rfl
@[simp] theorem stateAfter_cons (reporter : Reporter σ) (state : σ) (event : Event)
    (events : List Event) :
    reporter.stateAfter state (event :: events) =
      reporter.stateAfter (reporter.notify state event).1 events := rfl

theorem relay_logged (reporter : Reporter σ) (result : Except Obstacle α) (state : σ)
    (logs : List LogEvent) (rest : List Effect) :
    reporter.relay result state (logs.map .logged ++ rest) =
      (reporter.relay result state rest).after (logs.map .logged) := by
  induction logs with
  | nil => rfl
  | cons log logs ih => simp [relay, ih, Trace.after_after]

/-- What a course comes to only matters at its end. -/
theorem relay_map {β : Type} (reporter : Reporter σ) (result : Except Obstacle α)
    (change : α → β) (state : σ) (effects : List Effect) :
    reporter.relay (result.map change) state effects =
      ⟨(reporter.relay result state effects).effects,
        (reporter.relay result state effects).state,
        (reporter.relay result state effects).result.map change⟩ := by
  induction effects generalizing state with
  | nil => rfl
  | cons effect rest ih =>
    cases effect with
    | invoked fixture => simp [relay, ih, Trace.after]
    | logged event => simp [relay, ih, Trace.after]
    | notified event fault =>
      simp only [relay]
      split
      · rfl
      · simp [ih, Trace.after]

theorem relay_append {β : Type} (reporter : Reporter σ) (result : Except Obstacle β)
    (midway : α) (state : σ) (first second : List Effect) :
    reporter.relay result state (first ++ second) =
      match (reporter.relay (.ok midway) state first).result with
      | .error obstacle =>
        ⟨(reporter.relay (.ok midway) state first).effects,
          (reporter.relay (.ok midway) state first).state, .error obstacle⟩
      | .ok _ =>
        (reporter.relay result (reporter.relay (.ok midway) state first).state second).after
          (reporter.relay (.ok midway) state first).effects := by
  induction first generalizing state with
  | nil => rfl
  | cons effect rest ih =>
    cases effect with
    | invoked fixture | logged event =>
      simp only [List.cons_append, relay, ih]
      split <;> simp [Trace.after, *]
    | notified event fault =>
      simp only [List.cons_append, relay]
      split
      · rfl
      · simp only [ih]
        split <;> simp [Trace.after, *]

theorem eq_of_relay_ok {reporter : Reporter σ} {result : Except Obstacle α} {state : σ}
    {effects : List Effect} {value : α}
    (relayed : (reporter.relay result state effects).result = .ok value) :
    result = .ok value := by
  induction effects generalizing state with
  | nil => exact relayed
  | cons effect rest ih =>
    cases effect with
    | invoked fixture | logged event => exact ih relayed
    | notified event fault =>
      simp only [relay] at relayed
      split at relayed
      · contradiction
      · exact ih relayed

theorem relay_of_accepts {reporter : Reporter σ} (result : Except Obstacle α) {state : σ}
    {effects : List Effect} (faultless : Effect.Faultless effects)
    (accepts : reporter.Accepts state (Effect.events effects)) :
    reporter.relay result state effects =
      ⟨effects, reporter.stateAfter state (Effect.events effects), result⟩ := by
  induction effects generalizing state with
  | nil => rfl
  | cons effect rest ih =>
    have restFaultless : Effect.Faultless rest := fun event cause told =>
      faultless event cause (List.mem_cons_of_mem _ told)
    cases effect with
    | invoked fixture | logged event => simp [relay, Trace.after, ih restFaultless accepts]
    | notified event fault =>
      obtain ⟨taken, accepts⟩ := accepts
      -- A course without faults holds `none` here, which is also what the reporter answers.
      have unfailed : fault = none := by
        cases fault with
        | none => rfl
        | some cause => exact absurd (List.mem_cons_self ..) (faultless event cause)
      subst unfailed
      rcases told : reporter.notify state event with ⟨next, fault⟩
      rw [told] at taken accepts
      subst taken
      simp [relay, told, Trace.after, ih restFaultless accepts]

theorem accepts_of_relay_ok {reporter : Reporter σ} {result : Except Obstacle α} {state : σ}
    {effects : List Effect} {value : α}
    (relayed : (reporter.relay result state effects).result = .ok value) :
    reporter.Accepts state (Effect.events effects) := by
  induction effects generalizing state with
  | nil => trivial
  | cons effect rest ih =>
    cases effect with
    | invoked fixture | logged event => exact ih relayed
    | notified event fault =>
      rcases told : reporter.notify state event with ⟨next, _ | cause⟩
      · simp only [relay, told] at relayed
        simp only [Effect.events_notified, Accepts, told]
        exact ⟨trivial, ih relayed⟩
      · simp [relay, told] at relayed

/-- The reporter ends up in the state in which the events it was told leave it. -/
theorem relay_state (reporter : Reporter σ) (result : Except Obstacle α) (state : σ)
    (effects : List Effect) :
    (reporter.relay result state effects).state =
      reporter.stateAfter state (Effect.events (reporter.relay result state effects).effects) := by
  induction effects generalizing state with
  | nil => rfl
  | cons effect rest ih =>
    cases effect with
    | invoked fixture | logged event => simpa [relay] using ih state
    | notified event fault =>
      rcases told : reporter.notify state event with ⟨next, _ | cause⟩
      · simpa [relay, told] using ih next
      · simp [relay, told]

theorem invoked_of_relay {reporter : Reporter σ}
    {result : Except Obstacle α} {state : σ} {effects : List Effect} {fixture : Fixture}
    (invoked : .invoked fixture ∈ (reporter.relay result state effects).effects) :
    .invoked fixture ∈ effects := by
  induction effects generalizing state with
  | nil => exact invoked
  | cons effect rest ih =>
    cases effect with
    | invoked other =>
      rcases List.mem_cons.mp invoked with same | later
      · exact same ▸ List.mem_cons_self ..
      · exact List.mem_cons_of_mem _ (ih later)
    | logged event =>
      rcases List.mem_cons.mp invoked with impossible | later
      · contradiction
      · exact List.mem_cons_of_mem _ (ih later)
    | notified event fault =>
      rcases told : reporter.notify state event with ⟨next, _ | cause⟩
      · simp only [relay, told, Trace.after_effects, List.cons_append, List.nil_append,
          List.mem_cons, reduceCtorEq, false_or] at invoked
        exact List.mem_cons_of_mem _ (ih invoked)
      · simp [relay, told] at invoked

/-- The fault noted with an event is what the reporter answered in the state it was in. -/
theorem relay_fault {reporter : Reporter σ} {result : Except Obstacle α} {state : σ}
    {effects before after : List Effect} {event : Event} {fault : Option IoFault}
    (split : (reporter.relay result state effects).effects =
      before ++ .notified event fault :: after) :
    fault = (reporter.notify (reporter.stateAfter state (Effect.events before)) event).2 := by
  -- By induction on the course; either the event is the first one told, or it comes after
  -- what is done first, in the state in which that leaves the reporter.
  induction effects generalizing state before with
  | nil => simp [relay] at split
  | cons effect rest ih =>
    cases effect with
    | invoked fixture | logged event =>
      cases before with
      | nil => simp [relay] at split
      | cons first before =>
        simp only [relay, Trace.after_effects, List.cons_append, List.nil_append,
          List.cons.injEq] at split
        obtain ⟨rfl, split⟩ := split
        have answered := ih split
        exact answered
    | notified told _ =>
      rcases answered : reporter.notify state told with ⟨next, _ | cause⟩
      · simp only [relay, answered, Trace.after_effects, List.cons_append,
          List.nil_append] at split
        cases before with
        | nil =>
          simp only [List.nil_append, List.cons.injEq, Effect.notified.injEq] at split
          obtain ⟨⟨rfl, rfl⟩, -⟩ := split
          simp [answered]
        | cons first before =>
          simp only [List.cons_append, List.cons.injEq] at split
          obtain ⟨rfl, split⟩ := split
          simpa [answered] using ih split
      · simp only [relay, answered] at split
        cases before with
        | nil =>
          simp only [List.nil_append, List.cons.injEq, Effect.notified.injEq] at split
          obtain ⟨⟨rfl, rfl⟩, -⟩ := split
          simp [answered]
        | cons first before => simp at split

end Reporter

/-! ## The course -/

namespace Plan

/-- The obstacle met on a fixture, if the subject cannot be observed on it. -/
def obstacleOn (plan : Plan σ) (fixture : Fixture) : Option Obstacle :=
  match (plan.invoke fixture).value with
  | .error obstacle => some obstacle
  | .ok _ => none

/-- The judgement on a fixture, if the subject can be observed on it. -/
def judgement? (plan : Plan σ) (fixture : Fixture) : Option Judgement :=
  match (plan.invoke fixture).value with
  | .error _ => none
  | .ok invocation => some (plan.judgement fixture invocation)

/-- Whether no fixture is attempted after this one. -/
def endsAt (plan : Plan σ) (fixture : Fixture) : Bool :=
  match plan.judgement? fixture with
  | none => true
  | some judgement => plan.failFast && !judgement.verdict.isSuccess

/-- The fixtures attempted if no call of the reporter fails: all of them, or those up to
    the first at which the run ends. -/
def attempted (plan : Plan σ) : List Fixture → List Fixture
  | [] => []
  | fixture :: rest =>
    if plan.endsAt fixture then [fixture] else fixture :: plan.attempted rest

/-- What is done about a fixture whose judgement is reported, with the fault of the call. -/
def reporting (plan : Plan σ) (fixture : Fixture) (judgement : Judgement)
    (fault : Option IoFault) : List Effect :=
  .invoked fixture :: ((plan.invoke fixture).logs.map .logged ++
    [.logged (judgedLog judgement), .notified (.judged judgement) fault])

/-- What is done about a fixture if no call of the reporter fails. -/
def effectsOn (plan : Plan σ) (fixture : Fixture) : List Effect :=
  match plan.judgement? fixture with
  | none => .invoked fixture :: (plan.invoke fixture).logs.map .logged
  | some judgement => plan.reporting fixture judgement none

/-- The verdicts on fixtures, in order. -/
def verdicts (plan : Plan σ) (fixtures : List Fixture) : List Verdict :=
  fixtures.filterMap fun fixture => (plan.judgement? fixture).map (·.verdict)

/-- The obstacle met when fixtures are attempted, if there is one. -/
def obstacleMet (plan : Plan σ) (fixtures : List Fixture) : Option Obstacle :=
  (plan.attempted fixtures).findSome? plan.obstacleOn

/-- What attempting fixtures comes to, on top of a tally. -/
def outcome (plan : Plan σ) (tally : Tally) (fixtures : List Fixture) :
    Except Obstacle Attempts :=
  match plan.obstacleMet fixtures with
  | some obstacle => .error obstacle
  | none =>
    .ok ⟨(plan.verdicts (plan.attempted fixtures)).foldl Tally.add tally,
      decide ((plan.attempted fixtures).length < fixtures.length)⟩

/-- What is logged when the run stops with fixtures left. -/
def stopNotice (plan : Plan σ) (fixtures : List Fixture) : List Effect :=
  if plan.obstacleMet fixtures = none ∧ (plan.attempted fixtures).length < fixtures.length then
    [.logged (.stoppingEarly (fixtures.length - (plan.attempted fixtures).length))]
  else []

/-- The effects of attempting fixtures if no call of the reporter fails. -/
def course (plan : Plan σ) (fixtures : List Fixture) : List Effect :=
  (plan.attempted fixtures).flatMap plan.effectsOn ++ plan.stopNotice fixtures

section Steps

variable {plan : Plan σ} {fixture : Fixture} {obstacle : Obstacle} {invocation : Invocation}

theorem obstacleOn_of_error (observed : (plan.invoke fixture).value = .error obstacle) :
    plan.obstacleOn fixture = some obstacle := by
  simp [obstacleOn, observed]

theorem obstacleOn_of_ok (observed : (plan.invoke fixture).value = .ok invocation) :
    plan.obstacleOn fixture = none := by
  simp [obstacleOn, observed]

theorem judgement?_of_error (observed : (plan.invoke fixture).value = .error obstacle) :
    plan.judgement? fixture = none := by
  simp [judgement?, observed]

theorem judgement?_of_ok (observed : (plan.invoke fixture).value = .ok invocation) :
    plan.judgement? fixture = some (plan.judgement fixture invocation) := by
  simp [judgement?, observed]

theorem obstacleOn_of_judged {judgement : Judgement}
    (judged : plan.judgement? fixture = some judgement) : plan.obstacleOn fixture = none := by
  cases observed : (plan.invoke fixture).value with
  | error obstacle => simp [judgement?_of_error observed] at judged
  | ok invocation => exact obstacleOn_of_ok observed

theorem obstacleOn_of_unjudged (unjudged : plan.judgement? fixture = none) :
    ∃ obstacle, plan.obstacleOn fixture = some obstacle := by
  cases observed : (plan.invoke fixture).value with
  | error obstacle => exact ⟨obstacle, obstacleOn_of_error observed⟩
  | ok invocation => simp [judgement?_of_ok observed] at unjudged

theorem effectsOn_of_error (observed : (plan.invoke fixture).value = .error obstacle) :
    plan.effectsOn fixture = .invoked fixture :: (plan.invoke fixture).logs.map .logged := by
  simp [effectsOn, judgement?_of_error observed]

theorem effectsOn_of_ok (observed : (plan.invoke fixture).value = .ok invocation) :
    plan.effectsOn fixture =
      plan.reporting fixture (plan.judgement fixture invocation) none := by
  simp [effectsOn, judgement?_of_ok observed]

/-! ### What attempting one fixture can do -/

variable {tally : Tally} {state next : σ} {rest : List Fixture}

theorem attempt_of_error (observed : (plan.invoke fixture).value = .error obstacle) :
    plan.attempt tally state (fixture :: rest) =
      ⟨plan.effectsOn fixture, state, .error obstacle⟩ := by
  simp only [attempt, observed, effectsOn_of_error observed]

theorem attempt_of_fault {cause : IoFault}
    (observed : (plan.invoke fixture).value = .ok invocation)
    (told : plan.reporter.notify state (.judged (plan.judgement fixture invocation)) =
      (next, some cause)) :
    plan.attempt tally state (fixture :: rest) =
      ⟨plan.reporting fixture (plan.judgement fixture invocation) (some cause), next,
        .error (.cannotReport cause)⟩ := by
  simp only [attempt, observed, told, reporting, List.cons_append]

theorem attempt_of_stop (observed : (plan.invoke fixture).value = .ok invocation)
    (told : plan.reporter.notify state (.judged (plan.judgement fixture invocation)) =
      (next, none))
    (stops : (plan.failFast && !(plan.judgement fixture invocation).verdict.isSuccess) = true) :
    plan.attempt tally state (fixture :: rest) =
      ⟨plan.effectsOn fixture ++
          (if rest.isEmpty then [] else [.logged (.stoppingEarly rest.length)]),
        next, .ok ⟨tally.add (plan.judgement fixture invocation).verdict, !rest.isEmpty⟩⟩ := by
  cases rest <;> simp [attempt, observed, told, stops, effectsOn_of_ok observed, reporting]

theorem attempt_of_next (observed : (plan.invoke fixture).value = .ok invocation)
    (told : plan.reporter.notify state (.judged (plan.judgement fixture invocation)) =
      (next, none))
    (goesOn : (plan.failFast && !(plan.judgement fixture invocation).verdict.isSuccess) = false) :
    plan.attempt tally state (fixture :: rest) =
      (plan.attempt (tally.add (plan.judgement fixture invocation).verdict) next rest).after
        (plan.effectsOn fixture) := by
  simp [attempt, observed, told, goesOn, effectsOn_of_ok observed, reporting]

/-! ### What a fixture adds to a course -/

/-- A fixture on which the subject cannot be observed is the last one. -/
theorem outcome_of_error (observed : (plan.invoke fixture).value = .error obstacle)
    (tally : Tally) (rest : List Fixture) :
    plan.outcome tally (fixture :: rest) = .error obstacle ∧
      plan.course (fixture :: rest) = plan.effectsOn fixture := by
  have last : plan.attempted (fixture :: rest) = [fixture] := by
    simp [attempted, endsAt, judgement?_of_error observed]
  have met : plan.obstacleMet (fixture :: rest) = some obstacle := by
    simp [obstacleMet, last, obstacleOn_of_error observed]
  exact ⟨by simp [outcome, met], by simp [course, stopNotice, met, last]⟩

/-- A run that is to stop at the first failure stops there, with or without fixtures
    left. -/
theorem outcome_of_stop (observed : (plan.invoke fixture).value = .ok invocation)
    (stops : (plan.failFast && !(plan.judgement fixture invocation).verdict.isSuccess) = true)
    (tally : Tally) (rest : List Fixture) :
    plan.outcome tally (fixture :: rest) =
        .ok ⟨tally.add (plan.judgement fixture invocation).verdict, !rest.isEmpty⟩ ∧
      plan.course (fixture :: rest) = plan.effectsOn fixture ++
        (if rest.isEmpty then [] else [.logged (.stoppingEarly rest.length)]) := by
  have last : plan.attempted (fixture :: rest) = [fixture] := by
    simp only [attempted, endsAt, judgement?_of_ok observed, stops]
    rfl
  have met : plan.obstacleMet (fixture :: rest) = none := by
    simp [obstacleMet, last, obstacleOn_of_ok observed]
  constructor
  · cases rest <;> simp [outcome, met, last, verdicts, judgement?_of_ok observed]
  · cases rest <;> simp [course, stopNotice, met, last]

/-- After any other fixture the run goes on. -/
theorem outcome_of_next (observed : (plan.invoke fixture).value = .ok invocation)
    (goesOn : (plan.failFast && !(plan.judgement fixture invocation).verdict.isSuccess) = false)
    (tally : Tally) (rest : List Fixture) :
    plan.outcome tally (fixture :: rest) =
        plan.outcome (tally.add (plan.judgement fixture invocation).verdict) rest ∧
      plan.course (fixture :: rest) = plan.effectsOn fixture ++ plan.course rest := by
  have more : plan.attempted (fixture :: rest) = fixture :: plan.attempted rest := by
    simp only [attempted, endsAt, judgement?_of_ok observed, goesOn]
    rfl
  have met : plan.obstacleMet (fixture :: rest) = plan.obstacleMet rest := by
    simp [obstacleMet, more, obstacleOn_of_ok observed]
  constructor
  · simp [outcome, met, more, verdicts, judgement?_of_ok observed]
  · simp [course, stopNotice, met, more]

/-- Relaying what is done about a fixture stops there if the report on it fails. -/
theorem relay_effectsOn (observed : (plan.invoke fixture).value = .ok invocation)
    (reporter : Reporter σ) (result : Except Obstacle α) (state : σ) (rest : List Effect) :
    reporter.relay result state (plan.effectsOn fixture ++ rest) =
      match reporter.notify state (.judged (plan.judgement fixture invocation)) with
      | (next, some cause) =>
        ⟨plan.reporting fixture (plan.judgement fixture invocation) (some cause), next,
          .error (.cannotReport cause)⟩
      | (next, none) => (reporter.relay result next rest).after (plan.effectsOn fixture) := by
  simp only [effectsOn_of_ok observed, reporting, List.cons_append, List.append_assoc,
    Reporter.relay, Reporter.relay_logged, List.nil_append]
  split <;> simp [Trace.after]

end Steps

@[simp] theorem invocations_effectsOn (plan : Plan σ) (fixture : Fixture) :
    Effect.invocations (plan.effectsOn fixture) = [fixture] := by
  cases judged : plan.judgement? fixture <;> simp [effectsOn, judged, reporting]

@[simp] theorem events_effectsOn (plan : Plan σ) (fixture : Fixture) :
    Effect.events (plan.effectsOn fixture) =
      ((plan.judgement? fixture).map Event.judged).toList := by
  cases judged : plan.judgement? fixture <;> simp [effectsOn, judged, reporting]

@[simp] theorem invocations_stopNotice (plan : Plan σ) (fixtures : List Fixture) :
    Effect.invocations (plan.stopNotice fixtures) = [] := by
  unfold stopNotice; split <;> rfl

@[simp] theorem events_stopNotice (plan : Plan σ) (fixtures : List Fixture) :
    Effect.events (plan.stopNotice fixtures) = [] := by
  unfold stopNotice; split <;> rfl

@[simp] theorem invocations_course (plan : Plan σ) (fixtures : List Fixture) :
    Effect.invocations (plan.course fixtures) = plan.attempted fixtures := by
  simp only [course, Effect.invocations_append, invocations_stopNotice, List.append_nil]
  induction plan.attempted fixtures with
  | nil => rfl
  | cons fixture rest ih => simp [ih]

@[simp] theorem events_course (plan : Plan σ) (fixtures : List Fixture) :
    Effect.events (plan.course fixtures) =
      (plan.attempted fixtures).filterMap fun fixture =>
        (plan.judgement? fixture).map Event.judged := by
  simp only [course, Effect.events_append, events_stopNotice, List.append_nil]
  induction plan.attempted fixtures with
  | nil => rfl
  | cons fixture rest ih =>
    cases judged : plan.judgement? fixture <;> simp [ih, judged]

theorem course_faultless (plan : Plan σ) (fixtures : List Fixture) :
    Effect.Faultless (plan.course fixtures) := by
  intro event cause told
  simp only [course, List.mem_append, List.mem_flatMap] at told
  rcases told with ⟨fixture, -, told⟩ | told
  · cases judged : plan.judgement? fixture <;> simp [effectsOn, judged, reporting] at told
  · unfold stopNotice at told
    split at told <;> simp at told

/-- Attempting fixtures is relaying their course. -/
theorem attempt_eq_relay (plan : Plan σ) (tally : Tally) (state : σ)
    (fixtures : List Fixture) :
    plan.attempt tally state fixtures =
      plan.reporter.relay (plan.outcome tally fixtures) state (plan.course fixtures) := by
  -- The tally and the state change with every fixture, so the induction is over all of them.
  induction fixtures generalizing tally state with
  | nil => rfl
  | cons fixture rest ih =>
    cases observed : (plan.invoke fixture).value with
    | error obstacle =>
      -- Nothing is reported, so only what was logged is to be relayed.
      obtain ⟨ends, follows⟩ := outcome_of_error observed tally rest
      have unreported := Reporter.relay_logged plan.reporter
        (.error obstacle : Except Obstacle Attempts) state (plan.invoke fixture).logs []
      rw [List.append_nil] at unreported
      rw [attempt_of_error observed, ends, follows, effectsOn_of_error observed, Reporter.relay,
        unreported]
      simp [Reporter.relay, Trace.after]
    | ok invocation =>
      rcases told : plan.reporter.notify state (.judged (plan.judgement fixture invocation)) with
        ⟨next, fault⟩
      cases stops :
        (plan.failFast && !(plan.judgement fixture invocation).verdict.isSuccess) with
      | true =>
        -- The run stops here, and says so if fixtures are left.
        obtain ⟨ends, follows⟩ := outcome_of_stop observed stops tally rest
        rw [ends, follows, relay_effectsOn observed, told]
        cases fault with
        | some cause => rw [attempt_of_fault observed told]
        | none =>
          rw [attempt_of_stop observed told stops]
          cases rest <;> simp [Reporter.relay, Trace.after]
      | false =>
        obtain ⟨ends, follows⟩ := outcome_of_next observed stops tally rest
        rw [ends, follows, relay_effectsOn observed, told]
        cases fault with
        | some cause => rw [attempt_of_fault observed told]
        | none => rw [attempt_of_next observed told stops, ih]

/-! ## The whole run -/

/-- What the run comes to if no call of the reporter fails. -/
def verdictOnRun (plan : Plan σ) : Except Obstacle Summary :=
  (plan.outcome {} plan.fixtures).map plan.summary

theorem verdictOnRun_of_met {plan : Plan σ} {obstacle : Obstacle}
    (met : plan.obstacleMet plan.fixtures = some obstacle) :
    plan.verdictOnRun = .error obstacle := by
  simp [verdictOnRun, outcome, met, Except.map]

theorem verdictOnRun_of_clear {plan : Plan σ} (clear : plan.obstacleMet plan.fixtures = none) :
    plan.verdictOnRun =
      .ok ⟨Tally.ofVerdicts (plan.verdicts (plan.attempted plan.fixtures)), plan.fixtures.length,
        decide ((plan.attempted plan.fixtures).length < plan.fixtures.length), plan.elapsed⟩ := by
  simp [verdictOnRun, outcome, clear, Except.map, summary, Tally.ofVerdicts]

/-- The last call of the reporter, made unless an obstacle was met. -/
def closing (plan : Plan σ) : List Effect :=
  match plan.verdictOnRun with
  | .error _ => []
  | .ok summary => [.notified (.completed summary) none]

/-- The effects of the run if no call of the reporter fails. -/
def script (plan : Plan σ) : List Effect :=
  .notified (.started plan.fixtures.length) none :: (plan.course plan.fixtures ++ plan.closing)

theorem complete_eq_relay (plan : Plan σ) (state : σ) (attempts : Attempts) :
    plan.complete state attempts =
      plan.reporter.relay (.ok (plan.summary attempts)) state
        [.notified (.completed (plan.summary attempts)) none] := by
  rcases told : plan.reporter.notify state (.completed (plan.summary attempts)) with
    ⟨next, fault⟩
  cases fault <;> simp [complete, Reporter.relay, told, Trace.after]

/-- A run is its script, relayed to its reporter. -/
theorem run_eq_relay (plan : Plan σ) (state : σ) :
    plan.run state = plan.reporter.relay plan.verdictOnRun state plan.script := by
  rcases told : plan.reporter.notify state (.started plan.fixtures.length) with ⟨next, fault⟩
  cases fault with
  | some cause => simp only [run, script, Reporter.relay, told]
  | none =>
    simp only [run, script, Reporter.relay, told, attempt_eq_relay]
    cases comes : plan.outcome {} plan.fixtures with
    | error obstacle =>
      -- The course ends in an obstacle, and no summary is told.
      have noClosing : plan.closing = [] := by simp [closing, verdictOnRun, comes, Except.map]
      simp only [verdictOnRun, comes, noClosing, List.append_nil, Reporter.relay_map]
      cases relayed : (plan.reporter.relay (.error obstacle : Except Obstacle Attempts) next
          (plan.course plan.fixtures)).result with
      | error met => simp [Trace.after, Except.map]
      | ok attempts => cases Reporter.eq_of_relay_ok relayed
    | ok attempts =>
      -- The summary is told after the course, unless a call failed on the way.
      have closes : plan.closing = [.notified (.completed (plan.summary attempts)) none] := by
        simp [closing, verdictOnRun, comes, Except.map]
      simp only [verdictOnRun, comes, closes, Except.map,
        Reporter.relay_append plan.reporter _ attempts]
      cases relayed : (plan.reporter.relay (.ok attempts) next
          (plan.course plan.fixtures)).result with
      | error met => simp [Trace.after]
      | ok same =>
        cases Reporter.eq_of_relay_ok relayed
        simp [complete_eq_relay, Trace.after]

theorem script_faultless (plan : Plan σ) : Effect.Faultless plan.script := by
  intro event cause told
  simp only [script, List.mem_cons, List.mem_append, Effect.notified.injEq] at told
  rcases told with ⟨-, impossible⟩ | told | told
  · contradiction
  · exact plan.course_faultless plan.fixtures event cause told
  · unfold closing at told
    split at told <;> simp at told

theorem invocations_script (plan : Plan σ) :
    Effect.invocations plan.script = plan.attempted plan.fixtures := by
  have noneLeft : Effect.invocations plan.closing = [] := by
    unfold closing
    split <;> rfl
  simp [script, noneLeft]

/-- A run whose reporter accepts every event of the script follows it to the end. -/
theorem run_of_accepts (plan : Plan σ) {state : σ}
    (accepts : plan.reporter.Accepts state (Effect.events plan.script)) :
    plan.run state =
      ⟨plan.script, plan.reporter.stateAfter state (Effect.events plan.script),
        plan.verdictOnRun⟩ := by
  rw [run_eq_relay]
  exact Reporter.relay_of_accepts _ plan.script_faultless accepts

end Plan

end Conformance
