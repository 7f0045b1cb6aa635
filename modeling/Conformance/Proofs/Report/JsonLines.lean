import Conformance.Proofs.Json
import Conformance.Proofs.Report.Sound
import Conformance.Proofs.Run.Complete
import Conformance.Proofs.Run.Results
import Conformance.Proofs.Text.Rows

/-! # Machine readable reports, read back

A reader of such reports cuts them at the line feeds and takes every row for a record.  No
record contains a line feed, whatever characters the identifiers and the captured output
consist of, and each is closed by one; so the reader finds the records of the events, each
whole and in order.

For a run in which the subject is observed on every fixture these are the record of the start,
one for each fixture attempted and the summary, and what the summary counts is what the records
between say.
-/

namespace Conformance

namespace JsonLines

open Text (rows lineFeed)

/-- The record on a row. -/
def readRow? (row : List UInt8) : Option Json.Record :=
  (Utf8.decode? row).bind fun text => Json.read? text.toList

/-- The records of a report all of whose rows are closed. -/
def read? (bytes : List UInt8) : Option (List Json.Record) :=
  if (rows bytes).getLast? = some [] then (rows bytes).dropLast.mapM readRow? else none

/-- The row an event is reported on. -/
def row (event : Event) : List UInt8 :=
  Utf8.encode (String.ofList (Json.write (record event)))

theorem encode_render (event : Event) : Utf8.encode (render event) = row event ++ [lineFeed] := by
  rw [render, row, Utf8.encode_ofList, Utf8.encode_ofList, List.flatMap_append]
  rfl

theorem lineFeed_not_mem_row (event : Event) : lineFeed ∉ row event := by
  rw [row, Text.lineFeed_mem_encode, String.toList_ofList]
  exact Json.lineFeed_not_mem_write (record event)

theorem readRow?_row (event : Event) : readRow? (row event) = some (record event) := by
  simp [readRow?, row, Json.read?_write]

theorem mapM_readRow? (events : List Event) :
    (events.map row).mapM readRow? = some (events.map record) := by
  induction events with
  | nil => rfl
  | cons event events ih => simp [readRow?_row, ih]

theorem written_eq (events : List Event) :
    Style.jsonLines.written events = events.flatMap fun event => row event ++ [lineFeed] := by
  simp only [Style.written, Style.render, encode_render]

/-- Reading a report gives the records of its events. -/
theorem read?_written (events : List Event) :
    read? (Style.jsonLines.written events) = some (events.map record) := by
  have split := Text.rows_flatMap lineFeed_not_mem_row events
  rw [read?, written_eq, split, List.getLast?_concat, if_pos rfl, List.dropLast_concat,
    mapM_readRow?]

theorem getLast?_written (events : List Event) (last : Event) :
    (Style.jsonLines.written (events ++ [last])).getLast? = some lineFeed := by
  rw [written_eq, List.flatMap_append, List.flatMap_singleton, ← List.append_assoc,
    List.getLast?_concat]

/-! ## What records say -/

/-- Whether a record has a member with this key and value. -/
def hasMember (key : String) (value : Json.Scalar) (record : Json.Record) : Bool :=
  record.lookup key == some value

theorem lookup_fixtureRecord (judgement : Judgement) :
    (fixtureRecord judgement).lookup "event" = some (.text "fixture") ∧
      (fixtureRecord judgement).lookup "fixture" = some (.text judgement.fixture.id) ∧
      (fixtureRecord judgement).lookup "verdict" = some (.text judgement.verdict.label) := by
  cases success : judgement.verdict.isSuccess <;>
    simp [fixtureRecord, success, List.lookup_cons]

theorem hasMember_verdict (verdict : Verdict) (judgement : Judgement) :
    hasMember "verdict" (.text verdict.label) (fixtureRecord judgement) =
      (judgement.verdict == verdict) := by
  rw [hasMember, (lookup_fixtureRecord judgement).2.2]
  cases verdict <;> cases judgement.verdict <;> decide

theorem countP_hasMember_verdict (verdict : Verdict) (judgements : List Judgement) :
    (judgements.map fixtureRecord).countP (hasMember "verdict" (.text verdict.label)) =
      (judgements.map Judgement.verdict).count verdict := by
  rw [List.countP_map, List.count, List.countP_map]
  congr 1
  funext judgement
  exact hasMember_verdict verdict judgement

/-- The closing record of a report agrees with the records of the fixtures before it, given
    how many fixtures there were. -/
structure Closes (last : Json.Record) (lines : List Json.Record) (fixtureCount : Nat) : Prop where
  event : last.lookup "event" = some (.text "summary")
  passed : last.lookup "passed" =
    some (.number (lines.countP (hasMember "verdict" (.text "success"))))
  failed : last.lookup "failed" =
    some (.number (lines.countP (hasMember "verdict" (.text "failed"))))
  timedOut : last.lookup "timed_out" =
    some (.number (lines.countP (hasMember "verdict" (.text "timeout"))))
  total : last.lookup "total" = some (.number lines.length)
  success : last.lookup "success" =
    some (.bool (lines.all (hasMember "verdict" (.text "success"))))
  stoppedEarly : last.lookup "stopped_early" =
    some (.bool (decide (lines.length < fixtureCount)))

theorem isClean_eq_all_hasMember (judgements : List Judgement) :
    (Tally.ofVerdicts (judgements.map Judgement.verdict)).isClean =
      (judgements.map fixtureRecord).all (hasMember "verdict" (.text "success")) := by
  rw [Bool.eq_iff_iff, Tally.isClean_ofVerdicts, List.all_eq_true]
  simp only [List.forall_mem_map]
  refine forall₂_congr fun judgement _ => ?_
  rw [Verdict.isSuccess_iff, ← beq_iff_eq, ← hasMember_verdict]
  rfl

theorem summaryRecord_closes (judgements : List Judgement) (fixtureCount : Nat)
    (elapsed : Duration) :
    Closes
      (summaryRecord ⟨Tally.ofVerdicts (judgements.map Judgement.verdict), fixtureCount,
        decide (judgements.length < fixtureCount), elapsed⟩)
      (judgements.map fixtureRecord) fixtureCount := by
  -- Each member is compared with the tally, and the tally with the verdicts it counts.
  generalize counted : Tally.ofVerdicts (judgements.map Judgement.verdict) = tally
  have total : tally.total = (judgements.map fixtureRecord).length := by
    rw [← counted, Tally.total_ofVerdicts, List.length_map, List.length_map]
  have clean := isClean_eq_all_hasMember judgements
  rw [counted] at clean
  rw [Tally.ofVerdicts_eq] at counted
  constructor
  case event => rfl
  case passed => rw [← Verdict.label, countP_hasMember_verdict, ← counted]; rfl
  case failed => rw [← Verdict.label, countP_hasMember_verdict, ← counted]; rfl
  case timedOut => rw [← Verdict.label, countP_hasMember_verdict, ← counted]; rfl
  case total => rw [← total]; rfl
  case success => rw [← clean]; rfl
  case stoppedEarly => rw [List.length_map]; rfl

end JsonLines

namespace Plan

variable {σ : Type} {plan : Plan σ} {invocation : Fixture → Invocation}

/-- The judgements on the fixtures that are attempted, if the subject has the given results. -/
def judgementsBy (plan : Plan σ) (invocation : Fixture → Invocation) : List Judgement :=
  (plan.attempted plan.fixtures).map fun fixture => plan.judgement fixture (invocation fixture)

theorem observed_attempted
    (observed : ∀ fixture ∈ plan.fixtures,
      (plan.invoke fixture).value = .ok (invocation fixture)) :
    ∀ fixture ∈ plan.attempted plan.fixtures,
      (plan.invoke fixture).value = .ok (invocation fixture) := fun fixture member =>
  observed fixture (attempted_subset member)

theorem verdictOnRun_of_observed
    (observed : ∀ fixture ∈ plan.fixtures,
      (plan.invoke fixture).value = .ok (invocation fixture)) :
    plan.verdictOnRun =
      .ok ⟨Tally.ofVerdicts ((plan.judgementsBy invocation).map Judgement.verdict),
        plan.fixtures.length,
        decide ((plan.attempted plan.fixtures).length < plan.fixtures.length), plan.elapsed⟩ := by
  rw [verdictOnRun_of_clear (obstacleMet_eq_none observed), verdicts_eq_map
    (observed_attempted observed), judgementsBy, List.map_map]
  rfl

theorem events_script_of_observed
    (observed : ∀ fixture ∈ plan.fixtures,
      (plan.invoke fixture).value = .ok (invocation fixture)) {summary : Summary}
    (comes : plan.verdictOnRun = .ok summary) :
    Effect.events plan.script =
      .started plan.fixtures.length ::
        ((plan.judgementsBy invocation).map .judged ++ [.completed summary]) := by
  simp only [script, closing, comes, events_course, Effect.events_notified,
    Effect.events_append, Effect.events_nil, judgements_eq_map (observed_attempted observed),
    judgementsBy, List.map_map]
  rfl

/-- The report of a run in which the subject is observed on every fixture, read back.  It is
    closed by a line feed and consists of the record of the start, a record for each fixture
    that was attempted, in order, and the summary, which agrees with the records before it. -/
theorem run_jsonLines (plan : Plan Sink) (reports : plan.reporter = Style.jsonLines.reporter)
    (invocation : Fixture → Invocation)
    (observed : ∀ fixture ∈ plan.fixtures,
      (plan.invoke fixture).value = .ok (invocation fixture)) :
    let trace := plan.run {}
    let attempted := Effect.invocations trace.effects
    ∃ summary start lines last,
      trace.result = .ok summary ∧
      trace.state.taken.getLast? = some Text.lineFeed ∧
      JsonLines.read? trace.state.taken = some (start :: (lines ++ [last])) ∧
      start.lookup "event" = some (.text "start") ∧
      start.lookup "fixtures" = some (.number plan.fixtures.length) ∧
      lines.length = attempted.length ∧
      lines = (attempted.map fun fixture =>
        JsonLines.fixtureRecord (plan.judgement fixture (invocation fixture))) ∧
      (∀ line ∈ lines, line.lookup "event" = some (.text "fixture")) ∧
      lines.map (·.lookup "fixture") = attempted.map (fun fixture => some (.text fixture.id)) ∧
      JsonLines.Closes last lines plan.fixtures.length ∧
      last.lookup "success" = some (.bool (decide (summary.exitCode = 0))) := by
  intro trace attempted
  obtain ⟨effects, result, taken⟩ := run_over_soundSink reports
  have invoked : attempted = plan.attempted plan.fixtures := by
    show Effect.invocations (plan.run {}).effects = _
    rw [effects, invocations_script]
  -- There is no obstacle, so the run comes to a summary and its script is known.
  have comes := verdictOnRun_of_observed observed
  generalize closes : Summary.mk _ _ _ _ = summary at comes
  have told := events_script_of_observed observed comes
  have records : (plan.judgementsBy invocation).map JsonLines.fixtureRecord =
      attempted.map fun fixture =>
        JsonLines.fixtureRecord (plan.judgement fixture (invocation fixture)) := by
    rw [judgementsBy, invoked, List.map_map]
    rfl
  -- The summary was counted from the verdicts that the records of the fixtures show.
  have agrees := JsonLines.summaryRecord_closes (plan.judgementsBy invocation)
    plan.fixtures.length plan.elapsed
  have count : (plan.judgementsBy invocation).length = (plan.attempted plan.fixtures).length :=
    List.length_map ..
  rw [count, closes, records] at agrees
  refine ⟨summary, JsonLines.record (.started plan.fixtures.length), _,
    JsonLines.summaryRecord summary, result.trans comes, ?_, ?_, rfl, rfl, List.length_map ..,
    rfl, ?_, ?_, agrees, ?_⟩
  · rw [taken, told, ← List.cons_append, JsonLines.getLast?_written]
  · rw [taken, told, JsonLines.read?_written, ← records]
    simp only [List.map_cons, List.map_append, List.map_map, List.map_nil]
    rfl
  · intro line member
    obtain ⟨fixture, -, rfl⟩ := List.mem_map.mp member
    exact (JsonLines.lookup_fixtureRecord _).1
  · rw [List.map_map]
    exact List.map_congr_left fun fixture _ => (JsonLines.lookup_fixtureRecord _).2.1
  · have success : (JsonLines.summaryRecord summary).lookup "success" =
        some (.bool summary.tally.isClean) := rfl
    rw [success, Summary.exitCode]
    simp [Tally.exitCode_eq_zero]

/-- A subject that fails on the second of three fixtures, with output that looks like the end
    of a record and like a success, and that is not UTF-8. -/
def forgingSubject (fixture : Fixture) : Invocation :=
  if fixture = ⟨"b\"\n"⟩ then
    { exitCode := some 1, stdout := Utf8.encode "\"\x7d\nSuccess: c\n" ++ [0xFF, 0x00, 0x5C] }
  else .exited 0

def forgedReport : Plan Sink where
  fixtures := [⟨"a"⟩, ⟨"b\"\n"⟩, ⟨"c"⟩]
  invoke fixture := { value := .ok (forgingSubject fixture) }
  expect := .marked "fail"
  reporter := Style.jsonLines.reporter
  failFast := true

theorem forgedReport_jsonLines :
    ∃ start lines last,
      JsonLines.read? (forgedReport.run {}).state.taken = some (start :: (lines ++ [last])) ∧
        lines.length = 2 ∧ last.lookup "stopped_early" = some (.bool true) := by
  obtain ⟨_, start, lines, last, -, -, reads, -, -, length, -, -, -, closes, -⟩ :=
    forgedReport.run_jsonLines rfl forgingSubject (fun _ _ => rfl)
  have two : lines.length = 2 := by
    rw [length, (@run_over_soundSink forgedReport .jsonLines rfl).1, invocations_script]
    decide +kernel
  refine ⟨start, lines, last, reads, two, ?_⟩
  rw [closes.stoppedEarly, two]
  rfl

end Plan

end Conformance
