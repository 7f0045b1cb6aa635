import Conformance.Proofs.Report.Captured
import Mathlib.Data.List.Basic

/-! # Captured output and the course of a run

What a subject writes is captured and shown, and nothing else comes of it.  Two subjects that
end alike on every fixture are run on the same fixtures, get the same verdicts and come to the
same result, and the reports on them differ where captured output is shown and nowhere else.

Everything a run takes from a judgement is the same for the silenced one, so the argument is
made once for each part of the course (`map_judgement?_of_alike`).
-/

namespace Conformance

variable {σ : Type}

/-- What a judgement comes to, if the event is one. -/
def Event.verdict? : Event → Option (Fixture × Verdict)
  | .judged judgement => some (judgement.fixture, judgement.verdict)
  | _ => none

/-! ## What is logged -/

namespace Effect

@[simp] theorem logs_nil : logs [] = [] := rfl
@[simp] theorem logs_invoked (fixture : Fixture) (rest : List Effect) :
    logs (.invoked fixture :: rest) = logs rest := rfl
@[simp] theorem logs_notified (event : Event) (fault : Option IoFault) (rest : List Effect) :
    logs (.notified event fault :: rest) = logs rest := rfl
@[simp] theorem logs_logged (event : LogEvent) (rest : List Effect) :
    logs (.logged event :: rest) = event :: logs rest := rfl
@[simp] theorem logs_append (first second : List Effect) :
    logs (first ++ second) = logs first ++ logs second :=
  List.filterMap_append

@[simp] theorem logs_map_logged (events : List LogEvent) : logs (events.map .logged) = events := by
  induction events with
  | nil => rfl
  | cons event events ih => rw [List.map_cons, logs_logged, ih]

end Effect

namespace Plan

/-- What a run itself logs about a fixture, besides what the invocation does. -/
def ownLogs (plan : Plan σ) (fixture : Fixture) : List LogEvent :=
  ((plan.judgement? fixture).map judgedLog).toList

theorem logs_effectsOn (plan : Plan σ) (fixture : Fixture) :
    Effect.logs (plan.effectsOn fixture) =
      (plan.invoke fixture).logs ++ plan.ownLogs fixture := by
  cases judged : plan.judgement? fixture <;> simp [effectsOn, ownLogs, judged, reporting]

theorem logs_script (plan : Plan σ) :
    Effect.logs plan.script =
      (plan.attempted plan.fixtures).flatMap
          (fun fixture => (plan.invoke fixture).logs ++ plan.ownLogs fixture) ++
        Effect.logs (plan.stopNotice plan.fixtures) := by
  have unlogged : Effect.logs plan.closing = [] := by
    unfold closing
    split <;> rfl
  rw [script, Effect.logs_notified, Effect.logs_append, unlogged, List.append_nil, course,
    Effect.logs_append]
  congr 1
  induction plan.attempted plan.fixtures with
  | nil => rfl
  | cons fixture rest ih =>
    rw [List.flatMap_cons, Effect.logs_append, logs_effectsOn, ih, List.flatMap_cons]

/-! ## Subjects that end alike -/

/-- The subject could not be observed for the same reason, or it ended alike; what it wrote and
    what was logged may differ. -/
def Alike (first second : Observation) : Prop :=
  first.value.map Invocation.silenced = second.value.map Invocation.silenced

def AlikeOn (fixtures : List Fixture) (first second : Fixture → Observation) : Prop :=
  ∀ fixture ∈ fixtures, Alike (first fixture) (second fixture)

theorem Alike.cases {first second : Observation} (alike : Alike first second) :
    (∃ obstacle, first.value = .error obstacle ∧ second.value = .error obstacle) ∨
      ∃ invocation other, first.value = .ok invocation ∧ second.value = .ok other ∧
        invocation.silenced = other.silenced := by
  obtain ⟨_, seen⟩ := first
  obtain ⟨_, otherSeen⟩ := second
  unfold Alike at alike
  cases seen with
  | error obstacle =>
    cases otherSeen with
    | error other =>
      obtain rfl : obstacle = other := Except.error.inj alike
      exact .inl ⟨obstacle, rfl, rfl⟩
    | ok other => cases alike
  | ok invocation =>
    cases otherSeen with
    | error obstacle => cases alike
    | ok other => exact .inr ⟨invocation, other, rfl, rfl, Except.ok.inj alike⟩

section

variable {plan : Plan σ} {invoke : Fixture → Observation} {fixtures : List Fixture}
  {fixture : Fixture}

theorem obstacleOn_of_alike (alike : Alike (plan.invoke fixture) (invoke fixture)) :
    plan.obstacleOn fixture = Plan.obstacleOn { plan with invoke } fixture := by
  obtain ⟨obstacle, first, second⟩ | ⟨invocation, other, first, second, -⟩ := alike.cases
  · rw [obstacleOn_of_error first]
    exact (obstacleOn_of_error second).symm
  · rw [obstacleOn_of_ok first]
    exact (obstacleOn_of_ok second).symm

theorem map_judgement?_of_alike {β : Type} {view : Judgement → β}
    (blind : ∀ judgement, view judgement.silenced = view judgement)
    (alike : Alike (plan.invoke fixture) (invoke fixture)) :
    (plan.judgement? fixture).map view =
      (Plan.judgement? { plan with invoke } fixture).map view := by
  obtain ⟨obstacle, first, second⟩ | ⟨invocation, other, first, second, same⟩ := alike.cases
  · rw [judgement?_of_error first]
    exact congrArg _ (judgement?_of_error second).symm
  · -- The verdict is read off what silencing leaves, so the silenced judgements are equal.
    have judged : (plan.judgement fixture invocation).silenced =
        (plan.judgement fixture other).silenced :=
      congrArg (fun seen : Invocation =>
        (⟨fixture, plan.expect fixture, seen.verdict (plan.expect fixture), seen⟩ : Judgement))
        same
    have otherJudged : Plan.judgement? { plan with invoke } fixture =
        some (plan.judgement fixture other) := judgement?_of_ok second
    rw [judgement?_of_ok first, otherJudged, Option.map_some, Option.map_some, ← blind, judged,
      blind]

theorem endsAt_of_alike (alike : Alike (plan.invoke fixture) (invoke fixture)) :
    plan.endsAt fixture = Plan.endsAt { plan with invoke } fixture := by
  have verdicts := @map_judgement?_of_alike _ _ _ _ _ Judgement.verdict (fun _ => rfl) alike
  cases judged : plan.judgement? fixture with
  | none =>
    rw [judged, Option.map_none, eq_comm, Option.map_eq_none_iff] at verdicts
    rw [endsAt, judged, endsAt, verdicts]
  | some judgement =>
    rw [judged, Option.map_some, eq_comm, Option.map_eq_some_iff] at verdicts
    obtain ⟨other, otherJudged, same⟩ := verdicts
    rw [endsAt, judged, endsAt, otherJudged]
    show (plan.failFast && !judgement.verdict.isSuccess) =
      (plan.failFast && !other.verdict.isSuccess)
    rw [same]

theorem attempted_of_alike (alike : AlikeOn fixtures plan.invoke invoke) :
    plan.attempted fixtures = Plan.attempted { plan with invoke } fixtures := by
  induction fixtures with
  | nil => rfl
  | cons fixture rest ih =>
    have here := endsAt_of_alike (alike fixture (List.mem_cons_self ..))
    have later := ih fun other member => alike other (List.mem_cons_of_mem _ member)
    rw [attempted, attempted, here, later]

theorem filterMap_judgement?_of_alike {β : Type} {view : Judgement → β}
    (blind : ∀ judgement, view judgement.silenced = view judgement)
    (alike : AlikeOn fixtures plan.invoke invoke) :
    (fixtures.filterMap fun fixture => (plan.judgement? fixture).map view) =
      fixtures.filterMap fun fixture =>
        (Plan.judgement? { plan with invoke } fixture).map view :=
  List.filterMap_congr fun fixture member =>
    map_judgement?_of_alike blind (alike fixture member)

theorem AlikeOn.attempted (alike : AlikeOn fixtures plan.invoke invoke) :
    AlikeOn (plan.attempted fixtures) plan.invoke invoke := fun fixture member =>
  alike fixture (attempted_subset member)

theorem obstacleMet_of_alike (alike : AlikeOn fixtures plan.invoke invoke) :
    plan.obstacleMet fixtures = Plan.obstacleMet { plan with invoke } fixtures := by
  have met := alike.attempted
  rw [obstacleMet, obstacleMet, ← attempted_of_alike alike]
  generalize plan.attempted fixtures = reached at met
  induction reached with
  | nil => rfl
  | cons fixture rest ih =>
    have here := obstacleOn_of_alike (met fixture (List.mem_cons_self ..))
    have later := ih fun other member => met other (List.mem_cons_of_mem _ member)
    rw [List.findSome?_cons, List.findSome?_cons, here, later]

theorem verdictOnRun_of_alike (alike : AlikeOn plan.fixtures plan.invoke invoke) :
    plan.verdictOnRun = Plan.verdictOnRun { plan with invoke } := by
  have sameMet := obstacleMet_of_alike alike
  cases met : plan.obstacleMet plan.fixtures with
  | some obstacle =>
    rw [verdictOnRun_of_met met, verdictOnRun_of_met (sameMet ▸ met)]
  | none =>
    have counted : plan.verdicts (plan.attempted plan.fixtures) =
        Plan.verdicts { plan with invoke } (plan.attempted plan.fixtures) :=
      filterMap_judgement?_of_alike (fun _ => rfl) alike.attempted
    rw [verdictOnRun_of_clear met, verdictOnRun_of_clear (sameMet ▸ met), counted,
      attempted_of_alike alike]

theorem stopNotice_of_alike (alike : AlikeOn fixtures plan.invoke invoke) :
    plan.stopNotice fixtures = Plan.stopNotice { plan with invoke } fixtures := by
  rw [stopNotice, stopNotice, obstacleMet_of_alike alike, attempted_of_alike alike]

theorem closing_of_alike (alike : AlikeOn plan.fixtures plan.invoke invoke) :
    plan.closing = Plan.closing { plan with invoke } := by
  rw [closing, closing, verdictOnRun_of_alike alike]

theorem ownLogs_of_alike (alike : Alike (plan.invoke fixture) (invoke fixture)) :
    plan.ownLogs fixture = Plan.ownLogs { plan with invoke } fixture := by
  rw [ownLogs, ownLogs, map_judgement?_of_alike (fun _ => rfl) alike]

theorem events_script_of_alike (alike : AlikeOn plan.fixtures plan.invoke invoke) :
    (Effect.events plan.script).map Event.silenced =
      (Effect.events (Plan.script { plan with invoke })).map Event.silenced := by
  have judged : ((plan.attempted plan.fixtures).filterMap fun fixture =>
        (plan.judgement? fixture).map fun judgement => Event.judged judgement.silenced) =
      (plan.attempted plan.fixtures).filterMap fun fixture =>
        (Plan.judgement? { plan with invoke } fixture).map fun judgement =>
          Event.judged judgement.silenced :=
    filterMap_judgement?_of_alike (fun _ => rfl) alike.attempted
  simp only [script, Effect.events_notified, Effect.events_append, events_course,
    ← closing_of_alike alike, ← attempted_of_alike alike, List.map_cons, List.map_append,
    List.map_filterMap, Option.map_map]
  exact congrArg (fun events => _ :: (events ++ _)) judged

end

/-- Two runs of one plan with subjects that differ in what they write.  Both invoke the same
    fixtures, tell the reporter the same apart from what was captured, make the same verdicts
    and come to the same result.  They log the same apart from what the invocations log
    themselves, and the reports agree apart from the captured output. -/
theorem run_noninterference (plan : Plan Sink) {style : Style}
    (reports : plan.reporter = style.reporter) (invoke : Fixture → Observation)
    (alike : AlikeOn plan.fixtures plan.invoke invoke) :
    let first := plan.run {}
    let second := Plan.run { plan with invoke } {}
    Effect.invocations first.effects = Effect.invocations second.effects ∧
    (Effect.events first.effects).map Event.silenced =
      (Effect.events second.effects).map Event.silenced ∧
    (Effect.events first.effects).filterMap Event.verdict? =
      (Effect.events second.effects).filterMap Event.verdict? ∧
    first.result = second.result ∧
    (∃ (own : Fixture → List LogEvent) (closing : List LogEvent),
      Effect.logs first.effects = (Effect.invocations first.effects).flatMap
        (fun fixture => (plan.invoke fixture).logs ++ own fixture) ++ closing ∧
      Effect.logs second.effects = (Effect.invocations second.effects).flatMap
        (fun fixture => (invoke fixture).logs ++ own fixture) ++ closing) ∧
    ((∀ fixture ∈ plan.fixtures, (plan.invoke fixture).logs = (invoke fixture).logs) →
      Effect.logs first.effects = Effect.logs second.effects) ∧
    style.AgreeApartFromCaptured first.state.taken second.state.taken := by
  intro first second
  obtain ⟨effects, result, taken⟩ :
      first.effects = _ ∧ first.result = _ ∧ first.state.taken = _ := run_over_soundSink reports
  obtain ⟨otherEffects, otherResult, otherTaken⟩ :
      second.effects = _ ∧ second.result = _ ∧ second.state.taken = _ :=
    @run_over_soundSink { plan with invoke } style reports
  have told := events_script_of_alike alike
  have logs := plan.logs_script
  have otherLogs : Effect.logs (Plan.script { plan with invoke }) =
      (plan.attempted plan.fixtures).flatMap
          (fun fixture => (invoke fixture).logs ++ plan.ownLogs fixture) ++
        Effect.logs (plan.stopNotice plan.fixtures) := by
    have own : ∀ fixture ∈ plan.attempted plan.fixtures,
        plan.ownLogs fixture = Plan.ownLogs { plan with invoke } fixture := fun fixture member =>
      ownLogs_of_alike (alike.attempted fixture member)
    rw [logs_script, ← stopNotice_of_alike alike, ← attempted_of_alike alike]
    congr 1
    exact List.flatMap_congr fun fixture member => by rw [own fixture member]
  rw [effects, otherEffects, result, otherResult, taken, otherTaken, invocations_script,
    invocations_script, ← attempted_of_alike alike]
  refine ⟨rfl, told, ?_, verdictOnRun_of_alike alike, ⟨_, _, logs, otherLogs⟩, ?_,
    style.written_agree told⟩
  · have blind (events : List Event) :
        (events.map Event.silenced).filterMap Event.verdict? = events.filterMap Event.verdict? := by
      rw [List.filterMap_map]
      refine List.filterMap_congr fun event _ => ?_
      cases event <;> rfl
    rw [← blind, told, blind]
  · intro same
    rw [logs, otherLogs]
    congr 1
    exact List.flatMap_congr fun fixture member => by
      rw [same fixture (attempted_subset member)]

def forgedConsole : Plan Sink :=
  { forgedReport with reporter := (Style.console { verbose := true }).reporter }

def quietSubject (fixture : Fixture) : Observation :=
  { value := .ok (forgingSubject fixture).silenced }

theorem forgedConsole_noninterference :
    (Style.console { verbose := true }).AgreeApartFromCaptured
        (forgedConsole.run {}).state.taken
        (Plan.run { forgedConsole with invoke := quietSubject } {}).state.taken ∧
      (forgedConsole.run {}).result =
        (Plan.run { forgedConsole with invoke := quietSubject } {}).result := by
  obtain ⟨-, -, -, result, -, -, agree⟩ :=
    @run_noninterference forgedConsole (.console { verbose := true }) rfl quietSubject
      (fun _ _ => rfl)
  exact ⟨agree, result⟩

end Plan

end Conformance
