import Conformance.Proofs.Fixture
import Conformance.Proofs.Run.Abort
import Conformance.Proofs.Run.Complete

/-! # Runs over parts of a fixture list

A run that attempts everything does the same about a fixture whatever comes before it.  So the
reports of such a run are read off the fixtures one by one, and runs over related lists have
related reports: parts of a list can be run apart, a selection can be made before or after, and
the order of the fixtures is the order of the reports and nothing else.
-/

namespace Conformance

/-! ## Reports of an undisturbed run -/

namespace Effect

@[simp] theorem reports_logged (event : LogEvent) (rest : List Effect) :
    reports (.logged event :: rest) = reports rest := rfl

@[simp] theorem reports_map_logged (logs : List LogEvent) : reports (logs.map .logged) = [] := by
  induction logs with
  | nil => rfl
  | cons log logs ih => simpa using ih

end Effect

namespace Plan

variable {σ : Type} {plan : Plan σ} {invocation : Fixture → Invocation}

theorem reports_effectsOn {fixture : Fixture}
    (observed : (plan.invoke fixture).value = .ok (invocation fixture)) :
    Effect.reports (plan.effectsOn fixture) =
      [(plan.judgement fixture (invocation fixture), none)] := by
  simp [effectsOn_of_ok observed, reporting]

theorem reports_flatMap_effectsOn {fixtures : List Fixture}
    (observed : ∀ fixture ∈ fixtures, (plan.invoke fixture).value = .ok (invocation fixture)) :
    Effect.reports (fixtures.flatMap plan.effectsOn) =
      fixtures.map fun fixture => (plan.judgement fixture (invocation fixture), none) := by
  induction fixtures with
  | nil => rfl
  | cons fixture rest ih =>
    have tail := ih fun other member => observed other (List.mem_cons_of_mem _ member)
    simp [reports_effectsOn (observed fixture (List.mem_cons_self ..)), tail]

theorem attempted_of_persists (persists : plan.failFast = false)
    (observed : ∀ fixture ∈ plan.fixtures,
      (plan.invoke fixture).value = .ok (invocation fixture)) :
    plan.attempted plan.fixtures = plan.fixtures := by
  rw [attempted_eq_take observed, persists]
  exact List.take_of_length_le (by simp [reach])

/-- A run that attempts everything reports on every fixture once, in order. -/
theorem reports_script (persists : plan.failFast = false)
    (observed : ∀ fixture ∈ plan.fixtures,
      (plan.invoke fixture).value = .ok (invocation fixture)) :
    Effect.reports plan.script =
      plan.fixtures.map fun fixture => (plan.judgement fixture (invocation fixture), none) := by
  have quiet : Effect.reports (plan.stopNotice plan.fixtures) = [] := by
    unfold stopNotice; split <;> rfl
  have closed : Effect.reports plan.closing = [] := by
    unfold closing; split <;> rfl
  simp [script, course, attempted_of_persists persists observed,
    reports_flatMap_effectsOn observed, quiet, closed]

/-! ## Runs over other fixtures -/

/-- The same plan for other fixtures. -/
def on (plan : Plan σ) (fixtures : List Fixture) : Plan σ := { plan with fixtures }

@[simp] theorem fixtures_on (plan : Plan σ) (fixtures : List Fixture) :
    (plan.on fixtures).fixtures = fixtures := rfl
@[simp] theorem failFast_on (plan : Plan σ) (fixtures : List Fixture) :
    (plan.on fixtures).failFast = plan.failFast := rfl
@[simp] theorem elapsed_on (plan : Plan σ) (fixtures : List Fixture) :
    (plan.on fixtures).elapsed = plan.elapsed := rfl
@[simp] theorem verdictOn_on (plan : Plan σ) (fixtures : List Fixture) :
    (plan.on fixtures).verdictOn = plan.verdictOn := rfl

/-- The report on a fixture on which the subject has the given result. -/
def reportOn (plan : Plan σ) (invocation : Fixture → Invocation) (fixture : Fixture) :
    Judgement × Option IoFault :=
  (plan.judgement fixture (invocation fixture), none)

section Everything

variable {state : σ}
  (observed : ∀ fixture, (plan.invoke fixture).value = .ok (invocation fixture))
  (persists : plan.failFast = false) (reliable : plan.reporter.Reliable state)

include observed persists reliable

theorem reports_run_on (fixtures : List Fixture) :
    Effect.reports ((plan.on fixtures).run state).effects =
      fixtures.map (plan.reportOn invocation) := by
  have follows := (plan.on fixtures).run_of_accepts (reliable _)
  rw [follows]
  exact reports_script persists fun fixture _ => observed fixture

theorem result_run_on (fixtures : List Fixture) :
    ((plan.on fixtures).run state).result =
      .ok ⟨Tally.ofVerdicts (fixtures.map (plan.verdictOn invocation)), fixtures.length, false,
        plan.elapsed⟩ := by
  have follows := (plan.on fixtures).run_of_accepts (reliable _)
  have comes := @verdictOnRun_eq_ok σ (plan.on fixtures) invocation fun fixture _ =>
    observed fixture
  have everything : reach plan.failFast (fixtures.map (plan.verdictOn invocation)) =
      fixtures.length := by
    simp [reach, persists]
  rw [follows]
  simp only [comes, fixtures_on, failFast_on, elapsed_on, verdictOn_on, everything,
    List.take_of_length_le (Nat.le_of_eq (List.length_map ..)), Nat.lt_irrefl, decide_false]

end Everything

theorem filter_reportOn (plan : Plan σ) (invocation : Fixture → Invocation)
    (keyword : Option String) (fixtures : List Fixture) :
    (Fixture.select keyword fixtures).map (plan.reportOn invocation) =
      (fixtures.map (plan.reportOn invocation)).filter fun (judgement, _) =>
        keyword.all (Text.contains · judgement.fixture.name) := by
  rw [Fixture.select_eq_filter, List.filter_map]
  rfl

/-- Runs that attempt everything compose.  Over two lists one after the other a run reports what
    it reports over each, and counts the verdicts of both; over the fixtures that a keyword
    selects it reports what it reports on these anyway; and over the same fixtures in another
    order it counts the same and has the same exit code, while its reports change places as the
    fixtures do. -/
theorem runs_compose (plan : Plan σ) (state : σ) (invocation : Fixture → Invocation)
    (observed : ∀ fixture, (plan.invoke fixture).value = .ok (invocation fixture))
    (persists : plan.failFast = false) (reliable : plan.reporter.Reliable state) :
    let reports fixtures := Effect.reports ((plan.on fixtures).run state).effects
    let Comes fixtures summary := ((plan.on fixtures).run state).result = .ok summary
    (∀ first second, reports (first ++ second) = reports first ++ reports second ∧
      ∃ firstly secondly together, Comes first firstly ∧ Comes second secondly ∧
        Comes (first ++ second) together ∧ together.tally = firstly.tally.sum secondly.tally) ∧
    (∀ keyword fixtures, reports (Fixture.select keyword fixtures) =
      (reports fixtures).filter fun (judgement, _) =>
        keyword.all (Text.contains · judgement.fixture.name)) ∧
    ∀ fixtures others : List Fixture, fixtures.Perm others →
      (reports fixtures).Perm (reports others) ∧
      (∀ position : Nat → Nat, (∀ index : Nat, others[index]? = fixtures[position index]?) →
        ∀ index : Nat, (reports others)[index]? = (reports fixtures)[position index]?) ∧
      ∃ ordered reordered, Comes fixtures ordered ∧ Comes others reordered ∧
        reordered.tally = ordered.tally ∧ reordered.exitCode = ordered.exitCode := by
  intro reports Comes
  have reported : ∀ fixtures, reports fixtures = fixtures.map (plan.reportOn invocation) :=
    reports_run_on observed persists reliable
  have comes := result_run_on observed persists reliable
  refine ⟨?_, ?_, ?_⟩
  · intro first second
    refine ⟨by simp only [reported, List.map_append], _, _, _, comes first, comes second,
      comes (first ++ second), ?_⟩
    rw [List.map_append, Tally.ofVerdicts_append]
  · intro keyword fixtures
    rw [reported, reported, filter_reportOn]
  · intro fixtures others permuted
    have tallies : Tally.ofVerdicts (others.map (plan.verdictOn invocation)) =
        Tally.ofVerdicts (fixtures.map (plan.verdictOn invocation)) :=
      (Tally.ofVerdicts_perm (permuted.map _)).symm
    refine ⟨?_, ?_, _, _, comes fixtures, comes others, tallies, ?_⟩
    · rw [reported, reported]
      exact permuted.map _
    · intro position alike index
      simp only [reported, List.getElem?_map, alike]
    · simp only [Summary.exitCode, tallies]

/-- A plan whose subject rejects one fixture, and whose run goes on. -/
def persistent : Plan (List Event) where
  fixtures := []
  invoke fixture := { value := .ok (.exited (if fixture = ⟨"b"⟩ then 1 else 0)) }
  expect := .marked "fail"
  reporter := .recorder

theorem persistent_composes :
    let reports fixtures := Effect.reports ((persistent.on fixtures).run []).effects
    reports [⟨"a"⟩, ⟨"b"⟩, ⟨"c"⟩] = reports [⟨"a"⟩, ⟨"b"⟩] ++ reports [⟨"c"⟩] ∧
    reports [⟨"b"⟩] = [(⟨⟨"b"⟩, .accepted, .failed, .exited 1⟩, none)] ∧
    (reports [⟨"a"⟩, ⟨"b"⟩]).Perm (reports [⟨"b"⟩, ⟨"a"⟩]) := by
  intro reports
  obtain ⟨apart, selected, reordered⟩ := persistent.runs_compose []
    (fun fixture => .exited (if fixture = ⟨"b"⟩ then 1 else 0)) (fun _ => rfl) rfl
    (Reporter.recorder_reliable [])
  have chosen := selected (some "b") [⟨"a"⟩, ⟨"b"⟩, ⟨"c"⟩]
  refine ⟨(apart [⟨"a"⟩, ⟨"b"⟩] [⟨"c"⟩]).1, ?_, (reordered _ _ (by decide)).1⟩
  exact (congrArg reports (by decide +kernel)).trans (chosen.trans (by decide +kernel))

end Plan

end Conformance
