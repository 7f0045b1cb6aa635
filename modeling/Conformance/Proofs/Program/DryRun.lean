import Conformance.Proofs.Listing
import Conformance.Proofs.Program.ExitCode
import Conformance.Proofs.Report.Sound
import Conformance.Proofs.Run.Composition
import Conformance.Proofs.Settings

/-! # Dry runs

A listing goes through the same fixtures as a run with the same choices about fixtures, in the
same order, and writes a line for each.  What it says beforehand is what a run that does not
stop early reports: the fixtures, and what is expected of each.  It says so without the
subject, which it never calls.
-/

namespace Conformance

/-! ## Listings -/

theorem Settings.fixtures_of_unread {settings : Settings} {list : Path → Listing}
    {error : ListingError} (strict : settings.tolerance = .strict)
    (unread : (Listing.gather list settings.fixtureDir).value = .error error) :
    (settings.fixtures list).value = .error (.listing error) := by
  simp [fixtures, Listing.gatherWith, strict, unread, Except.map]

namespace Program

variable {world : World} {settings : Settings} {sink : Sink}

theorem encode_listing (convention : Convention) (fixtures : List Fixture) :
    Utf8.encode (String.join (fixtures.map (listingLine convention))) =
      fixtures.flatMap fun fixture => Utf8.encode (listingLine convention fixture) := by
  rw [Utf8.encode, String.toList_join, List.flatMap_assoc, List.flatMap_map]
  rfl

/-- Over a sound sink a listing writes a line for each fixture and succeeds. -/
theorem list_of_sound (sound : sink.Sound) {fixtures : List Fixture}
    (found : (settings.fixtures world.list).value = .ok fixtures) :
    (list world settings sink).result = .ok 0 ∧
      (list world settings sink).sink.taken = sink.taken ++
        fixtures.flatMap fun fixture =>
          Utf8.encode (listingLine settings.convention fixture) := by
  obtain ⟨unfailed, -⟩ := Sink.put_of_sound sound
    (Utf8.encode (String.join (fixtures.map (listingLine settings.convention)))) true
  have taken := Sink.put_taken unfailed
  rcases put : sink.put (Utf8.encode (String.join (fixtures.map
      (listingLine settings.convention)))) true with ⟨next, fault⟩
  rw [put] at unfailed taken
  subst unfailed
  simp only [list, found, put]
  exact ⟨trivial, by rw [taken, encode_listing]⟩

theorem list_of_sameFixtureChoices {first second : List Setting}
    (same : Settings.SameFixtureChoices first second) :
    list world (.ofChoices first) sink = list world (.ofChoices second) sink := by
  simp only [list, same.fixtures, same.convention]

/-- Over a sound sink, with every fixture observed and none skipped, the reports of a run are
    on the fixtures that the settings ask for, each with what the convention expects. -/
theorem reports_run (sound : sink.Sound) {fixtures : List Fixture}
    {invocation : Fixture → Invocation} (persists : settings.failFast = false)
    (observed : ∀ fixture ∈ fixtures,
      (world.invoke settings fixture).value = .ok (invocation fixture)) :
    let plan := settings.plan world fixtures
    (∃ summary, (plan.run sink).result = .ok summary) ∧
      Effect.reports (plan.run sink).effects =
        fixtures.map fun fixture => (plan.judgement fixture (invocation fixture), none) := by
  intro plan
  have reliable : plan.reporter.Reliable sink :=
    (settings.style world.terminal).reliable_of_sound sound
  have follows := plan.run_of_accepts (reliable _)
  have comes := @Plan.verdictOnRun_eq_ok Sink plan invocation observed
  rw [follows]
  exact ⟨⟨_, comes⟩, Plan.reports_script persists observed⟩

/-- A listing is a dry run of the run with the same choices about fixtures.  If the directory
    is refused, both fail with the same error and write nothing.  If it is not, the listing
    succeeds, and its lines are the fixtures the run reports on, in order, each after what is
    expected of it.  No subject makes a difference to a listing. -/
theorem list_foretells_run (world : World) (sink : Sink) (sound : sink.Sound)
    (runChoices listChoices : List Setting)
    (same : Settings.SameFixtureChoices runChoices listChoices)
    (invocation : Fixture → Invocation) :
    let settings := Settings.ofChoices runChoices
    let kept := settings.kept world.list
    let ran := execute world (some (.run runChoices)) sink
    let listed := execute world (some (.list listChoices)) sink
    let trace := (settings.plan world kept).run sink
    settings.failFast = false →
    (∀ fixture ∈ kept, (world.invoke settings fixture).value = .ok (invocation fixture)) →
    ((∃ error, settings.tolerance = .strict ∧
        (Listing.gather world.list settings.fixtureDir).value = .error error ∧
        ran.result = .error (.obstacle (.listing error)) ∧
        listed.result = .error (.obstacle (.listing error)) ∧
        ran.sink = sink ∧ listed.sink = sink) ∨
      (¬ settings.Refuses world.list ∧
        ran.sink = trace.state ∧
        (∃ summary, trace.result = .ok summary ∧ ran.result = .ok summary.exitCode) ∧
        (Effect.reports trace.effects).map (·.1.fixture) = kept ∧
        listed.result = .ok 0 ∧
        listed.sink.taken = sink.taken ++
          (Effect.reports trace.effects).flatMap fun (judgement, _) =>
            Utf8.encode (judgement.expected.label ++ " " ++ judgement.fixture.id ++ "\n"))) ∧
    ∀ invoke, execute { world with invoke } (some (.list listChoices)) sink = listed := by
  intro settings kept ran listed trace persists observed
  refine ⟨?_, fun _ => rfl⟩
  have listing : listed = list world settings sink := (list_of_sameFixtureChoices same).symm
  by_cases refuses : settings.Refuses world.list
  · obtain ⟨strict, error, unread⟩ := refuses
    have failed := Settings.fixtures_of_unread strict unread
    have stops : ran = ⟨(settings.fixtures world.list).logs, sink,
        .error (.obstacle (.listing error))⟩ := by
      show run world settings sink = _
      simp only [run, failed]
    have stopsToo : listed = ⟨(settings.fixtures world.list).logs, sink,
        .error (.obstacle (.listing error))⟩ := by
      rw [listing]
      simp only [list, failed]
    exact .inl ⟨error, strict, unread, by rw [stops], by rw [stopsToo], by rw [stops],
      by rw [stopsToo]⟩
  · obtain ⟨left, comes⟩ := @run_of_not_refuses world settings sink refuses
    obtain ⟨⟨summary, ends⟩, reported⟩ := reports_run sound persists observed
    obtain ⟨succeeds, lines⟩ :=
      list_of_sound sound (settings.fixtures_of_not_refuses refuses)
    have reports : Effect.reports trace.effects = _ := reported
    refine .inr ⟨refuses, left, ⟨summary, ends, ?_⟩, ?_, by rw [listing, succeeds], ?_⟩
    · show (run world settings sink).result = _
      rw [comes, ends]
      rfl
    · rw [reports, List.map_map]
      exact List.map_id _
    · have line (fixture : Fixture) : Utf8.encode (listingLine settings.convention fixture) =
          Utf8.encode ((settings.convention fixture).label ++ " " ++ fixture.id ++ "\n") := rfl
      simp only [listing, lines, reports, List.flatMap_map, line, Plan.judgement, Settings.plan]
      rfl

/-- A world with a marked and an unmarked fixture, both of which the subject accepts. -/
def halfMarked : World where
  list _ := .ok [.named (Utf8.encode "b_fail"), .named (Utf8.encode "a")]
  invoke _ _ := { value := .ok (.exited 0) }

theorem halfMarked_foretold :
    let settings := Settings.ofChoices [.marker "b", .verbose true]
    let trace := (settings.plan halfMarked (settings.kept halfMarked.list)).run {}
    let listed := execute halfMarked (some (.list [.marker "b"])) {}
    ⟨"tests/b_fail"⟩ ∈ (Effect.reports trace.effects).map (·.1.fixture) ∧
      listed.result = .ok 0 ∧
      listed.sink.taken = (Effect.reports trace.effects).flatMap fun (judgement, _) =>
        Utf8.encode (judgement.expected.label ++ " " ++ judgement.fixture.id ++ "\n") := by
  intro settings trace listed
  have kept : settings.kept halfMarked.list =
      Listing.fixturesAmong "tests" [.named (Utf8.encode "b_fail"), .named (Utf8.encode "a")] := by
    have gathered := @Listing.gather_of_listed halfMarked.list "tests" _ rfl
    rw [Settings.kept, show settings.fixtureDir = .ofString "tests" from rfl, gathered]
    rfl
  rcases (list_foretells_run halfMarked {} ⟨rfl, rfl⟩ [.marker "b", .verbose true]
      [.marker "b"] ⟨rfl, rfl, rfl, rfl⟩ (fun _ => .exited 0) rfl fun _ _ => rfl).1 with
    ⟨-, strict, -⟩ | ⟨-, -, -, reported, succeeds, lines⟩
  · exact absurd strict (by decide)
  · refine ⟨?_, succeeds, lines.trans (List.nil_append _)⟩
    rw [reported, kept]
    exact Listing.mem_fixturesAmong.mpr
      ⟨"b_fail", by decide +kernel, by decide +kernel, by decide +kernel⟩

end Program

end Conformance
