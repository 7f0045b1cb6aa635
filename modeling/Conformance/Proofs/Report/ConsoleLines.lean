import Conformance.Proofs.Listing
import Conformance.Proofs.Report.Captured
import Conformance.Proofs.Text.Printable

/-! # Console reports, read back

A plain console report is read row by row.  The rows that begin with a tab show captured output;
what is left is a row for each fixture, an empty one and the closing line.

An identifier is written as it stands.  So this holds as long as no identifier contains a line
feed, and no longer: the rows of a broken identifier are rows of the report, and they can look
like those of other fixtures (`brokenName_misread`).
-/

namespace Conformance

namespace Text

theorem unindented_of_unbroken {row : List UInt8} (unbroken : lineFeed ∉ row)
    (flush : row.head? ≠ some tab) : unindented row = [row] := by
  rw [unindented, rows_of_unbroken unbroken, List.filter_cons_of_pos (by simpa using flush)]
  rfl

end Text

namespace Console

open Text (Shows lineFeed tab unindented)

/-- What a plain report says about a fixture: the verdict and the identifier. -/
abbrev Entry := Verdict × String

/-- The line of an entry. -/
def Entry.line (entry : Entry) : String := statusWord entry.1 ++ " " ++ entry.2

/-- The entry on a row. -/
def entryOnRow? (row : List UInt8) : Option Entry :=
  (Utf8.decode? row).bind fun text =>
    [Verdict.succeeded, .failed, .timedOut].findSome? fun verdict =>
      (text.toList.dropPrefix? (statusWord verdict ++ " ").toList).map fun id =>
        (verdict, String.ofList id)

/-- The entries of a plain report and its closing line. -/
def read? (report : List UInt8) : Option (List Entry × List UInt8) :=
  match (unindented report).reverse with
  | [] :: closing :: [] :: lines => (lines.reverse.mapM entryOnRow?).map (·, closing)
  | _ => none

/-! ## Entries -/

theorem head?_line (entry : Entry) : (Utf8.encode entry.line).head? ≠ some tab := by
  obtain ⟨verdict, id⟩ := entry
  rw [Entry.line, Utf8.encode_append, Utf8.encode_append]
  cases verdict <;> simp [statusWord, Utf8.encode, tab] <;> decide

theorem lineFeed_mem_line {entry : Entry} :
    lineFeed ∈ Utf8.encode entry.line ↔ '\n' ∈ entry.2.toList := by
  obtain ⟨verdict, id⟩ := entry
  rw [Text.lineFeed_mem_encode, Entry.line]
  cases verdict <;> simp [statusWord]

theorem entryOnRow?_line (entry : Entry) : entryOnRow? (Utf8.encode entry.line) = some entry := by
  obtain ⟨verdict, id⟩ := entry
  rw [entryOnRow?, Utf8.decode?_encode, Entry.line]
  cases verdict <;> simp [statusWord, List.dropPrefix?]

theorem mapM_entryOnRow? (entries : List Entry) :
    (entries.map fun entry => Utf8.encode entry.line).mapM entryOnRow? = some entries := by
  induction entries with
  | nil => rfl
  | cons entry entries ih => simp [entryOnRow?_line, ih]

theorem unindented_line {entry : Entry} (unbroken : '\n' ∉ entry.2.toList) :
    unindented (Utf8.encode entry.line) = [Utf8.encode entry.line] :=
  Text.unindented_of_unbroken (lineFeed_mem_line.not.mpr unbroken) (head?_line entry)

theorem flatMap_unindented_line {entries : List Entry}
    (unbroken : ∀ entry ∈ entries, '\n' ∉ entry.2.toList) :
    (entries.flatMap fun entry => unindented (Utf8.encode entry.line)) =
      entries.map fun entry => Utf8.encode entry.line := by
  rw [List.map_eq_flatMap]
  apply List.flatMap_congr
  intro entry member
  exact unindented_line (unbroken entry member)

theorem read?_of_unindented {report closing : List UInt8} {entries : List Entry}
    (rows : unindented report =
      (entries.map fun entry => Utf8.encode entry.line) ++ [[], closing, []]) :
    read? report = some (entries, closing) := by
  have reversed : (unindented report).reverse =
      [] :: closing :: [] :: (entries.map fun entry => Utf8.encode entry.line).reverse := by
    simp [rows]
  rw [read?, reversed]
  show ((entries.map fun entry => Utf8.encode entry.line).reverse.reverse.mapM entryOnRow?).map
    (·, closing) = _
  rw [List.reverse_reverse, mapM_entryOnRow?]
  rfl

/-! ## The rows of a report -/

def entryOf (judgement : Judgement) : Entry := (judgement.verdict, judgement.fixture.id)

theorem header_plain (judgement : Judgement) :
    header {} judgement = (entryOf judgement).line ++ "\n" := by
  simp [header, paint, Entry.line, entryOf]

theorem shows_judged (judgement : Judgement) :
    Shows (Utf8.encode (render {} (.judged judgement)))
      (unindented (Utf8.encode (entryOf judgement).line)) := by
  have above := shows_line (entryOf judgement).line
  have whole := above.append (shows_captured judgement)
  rwa [List.append_nil, ← header_plain, ← Utf8.encode_append] at whole

theorem printable_counts (tally : Tally) : Text.Printable (counts tally).toList := by
  unfold counts
  split <;> simp

theorem printable_closingLine (summary : Summary) :
    Text.Printable (closingLine summary).toList := by
  have stopped : Text.Printable " (stopped after first failure)".toList := by decide
  unfold closingLine
  simp only [String.toList_append, Text.printable_append, printable_counts,
    Text.printable_showSeconds, true_and]
  refine ⟨by decide, ?_⟩
  split
  · exact stopped
  · exact Text.printable_nil

theorem unindented_closingLine (summary : Summary) :
    unindented (Utf8.encode (closingLine summary)) = [Utf8.encode (closingLine summary)] := by
  have printable := printable_closingLine summary
  apply Text.unindented_of_unbroken
  · rw [Text.lineFeed_mem_encode]
    exact printable.not_mem (by decide)
  · intro first
    have low := printable.bytes (List.mem_of_mem_head? first)
    exact absurd low (by decide)

theorem shows_completed {summary : Summary} (attempted : summary.tally.total ≠ 0) :
    Shows (Utf8.encode (render {} (.completed summary)))
      [[], Utf8.encode (closingLine summary)] := by
  have blank := shows_line ""
  have closing := shows_line (closingLine summary)
  rw [unindented_closingLine] at closing
  have both := blank.append closing
  rw [← Utf8.encode_append, ← String.append_assoc] at both
  rw [render, if_neg attempted]
  exact both

theorem shows_judgements (judgements : List Judgement) :
    Shows ((Style.console {}).written (judgements.map .judged))
      (judgements.flatMap fun judgement => unindented (Utf8.encode (entryOf judgement).line)) := by
  induction judgements with
  | nil => exact Text.shows_nil
  | cons judgement rest ih => exact (shows_judged judgement).append ih

/-- What is not indented in a plain report. -/
theorem unindented_report {count : Nat} (some : count ≠ 0) (judgements : List Judgement)
    {summary : Summary} (attempted : summary.tally.total ≠ 0) :
    unindented ((Style.console {}).written
        (.started count :: (judgements.map .judged ++ [.completed summary]))) =
      (judgements.flatMap fun judgement => unindented (Utf8.encode (entryOf judgement).line)) ++
        [[], Utf8.encode (closingLine summary), []] := by
  have opening : Utf8.encode (render {} (.started count)) = [] := by
    rw [render, if_neg some]
    rfl
  have whole := ((shows_judgements judgements).append (shows_completed attempted)) []
  have split : (Style.console {}).written
        (.started count :: (judgements.map .judged ++ [.completed summary])) =
      (Style.console {}).written (judgements.map .judged) ++
        Utf8.encode (render {} (.completed summary)) ++ [] := by
    simp [Style.written, Style.render, opening]
  rw [split, whole, List.append_assoc]
  rfl

end Console

namespace Plan

open Console (Entry)
open Text (unindented)

theorem attempted_ne_nil {σ : Type} {plan : Plan σ} {fixtures : List Fixture}
    (nonempty : fixtures ≠ []) : plan.attempted fixtures ≠ [] := by
  cases fixtures with
  | nil => exact absurd rfl nonempty
  | cons fixture rest =>
    rw [attempted]
    split <;> simp

/-- A plain report of a run in which the subject is observed on every fixture, read row by row.
    The rows that are not indented are those of the lines of the fixtures attempted, an empty one
    and the closing line.  There is one row for each fixture if and only if no identifier
    contains a line feed; then the verdicts and identifiers can be read back, and they are what
    the closing line counts. -/
theorem run_consoleLines (plan : Plan Sink) (reports : plan.reporter = (Style.console {}).reporter)
    (invocation : Fixture → Invocation)
    (observed : ∀ fixture ∈ plan.fixtures,
      (plan.invoke fixture).value = .ok (invocation fixture))
    (nonempty : plan.fixtures ≠ []) :
    let trace := plan.run {}
    let attempted := Effect.invocations trace.effects
    let entries : List Entry :=
      attempted.map fun fixture => (plan.verdictOn invocation fixture, fixture.id)
    let verdicts := entries.map Prod.fst
    let closing := Utf8.encode
      (Console.counts ⟨verdicts.count .succeeded, verdicts.count .failed,
          verdicts.count .timedOut⟩ ++ " in " ++ plan.elapsed.showSeconds ++ "s" ++
        if attempted.length < plan.fixtures.length then " (stopped after first failure)" else "")
    (∃ summary, trace.result = .ok summary) ∧
    unindented trace.state.taken =
      (entries.flatMap fun entry => unindented (Utf8.encode entry.line)) ++ [[], closing, []] ∧
    (unindented trace.state.taken =
        (entries.map fun entry => Utf8.encode entry.line) ++ [[], closing, []] ↔
      ∀ fixture ∈ attempted, '\n' ∉ fixture.id.toList) ∧
    ((∀ fixture ∈ attempted, '\n' ∉ fixture.id.toList) →
      Console.read? trace.state.taken = some (entries, closing)) := by
  intro trace attempted entries verdicts closing
  obtain ⟨effects, result, taken⟩ := run_over_soundSink reports
  have invoked : attempted = plan.attempted plan.fixtures := by
    show Effect.invocations (plan.run {}).effects = _
    rw [effects, invocations_script]
  have comes := verdictOnRun_of_observed observed
  have told := events_script_of_observed observed comes
  have reported : entries = (plan.judgementsBy invocation).map Console.entryOf := by
    show attempted.map _ = _
    rw [judgementsBy, invoked, List.map_map]
    rfl
  have counted : verdicts = (plan.judgementsBy invocation).map Judgement.verdict := by
    show entries.map _ = _
    rw [reported, List.map_map]
    rfl
  -- Some fixture is attempted, so the report has a closing line.
  have total : (Tally.ofVerdicts verdicts).total ≠ 0 := by
    rw [Tally.total_ofVerdicts, counted, judgementsBy]
    simpa using attempted_ne_nil nonempty
  have closes : Utf8.encode (Console.closingLine ⟨Tally.ofVerdicts
      ((plan.judgementsBy invocation).map Judgement.verdict), plan.fixtures.length,
      decide ((plan.attempted plan.fixtures).length < plan.fixtures.length), plan.elapsed⟩) =
      closing := by
    simp only [Console.closingLine, ← counted, Tally.ofVerdicts_eq, decide_eq_true_eq, ← invoked]
    rfl
  have lines : unindented trace.state.taken =
      (entries.flatMap fun entry => unindented (Utf8.encode entry.line)) ++ [[], closing, []] := by
    show unindented (plan.run {}).state.taken = _
    rw [taken, told, Console.unindented_report (by simpa using nonempty) _ (counted ▸ total),
      reported, List.flatMap_map, closes]
  have unbroken (whole : ∀ fixture ∈ attempted, '\n' ∉ fixture.id.toList) :
      unindented trace.state.taken =
        (entries.map fun entry => Utf8.encode entry.line) ++ [[], closing, []] := by
    rw [lines, Console.flatMap_unindented_line]
    intro entry member
    obtain ⟨fixture, found, rfl⟩ := List.mem_map.mp member
    exact whole fixture found
  refine ⟨⟨_, result.trans comes⟩, lines, ⟨?_, unbroken⟩, fun whole => ?_⟩
  · -- What is found on a row contains no line feed.
    intro same fixture member
    have found : Utf8.encode (Entry.line (plan.verdictOn invocation fixture, fixture.id)) ∈
        unindented trace.state.taken := by
      rw [same]
      exact List.mem_append_left _ (List.mem_map_of_mem (List.mem_map_of_mem member))
    have row := Text.lineFeed_not_mem_of_mem_rows (List.mem_of_mem_filter found)
    rwa [Console.lineFeed_mem_line] at row
  · exact Console.read?_of_unindented (unbroken whole)

/-- A subject that fails on the second fixture, with output that looks like a report. -/
def imitator (fixture : Fixture) : Invocation :=
  if fixture = ⟨"d/a"⟩ then .exited 0
  else { exitCode := some 1, stdout := Utf8.encode "Success: d/c\n\n9 passed, 0 failed in 0.00s\n" }

def imitatedReport : Plan Sink where
  fixtures := [⟨"d/a"⟩, ⟨"d/\tb\r"⟩]
  invoke fixture := { value := .ok (imitator fixture) }
  expect := .marked "fail"
  reporter := (Style.console {}).reporter

theorem imitatedReport_consoleLines :
    Console.read? (imitatedReport.run {}).state.taken =
      some ([(.succeeded, "d/a"), (.failed, "d/\tb\r")],
        Utf8.encode "1 passed, 1 failed in 0.00s") := by
  obtain ⟨-, -, -, reads⟩ :=
    imitatedReport.run_consoleLines rfl imitator (fun _ _ => rfl) (by decide)
  have invoked : Effect.invocations (imitatedReport.run {}).effects = imitatedReport.fixtures := by
    rw [(@run_over_soundSink imitatedReport (.console {}) rfl).1, invocations_script]
    decide +kernel
  rw [invoked] at reads
  rw [reads (by decide +kernel)]
  decide +kernel

/-- A name that a directory can hold and that reads like two lines of a report. -/
def brokenName : String := "a\nSuccess: b"

def brokenReport : Plan Sink where
  fixtures := [⟨Listing.join "d" brokenName⟩]
  invoke _ := { value := .ok (.exited 0) }
  expect := .marked "fail"
  reporter := (Style.console {}).reporter

/-- One fixture is found under that name, and the report on it shows two. -/
theorem brokenName_misread :
    '/' ∉ brokenName.toList ∧ '\x00' ∉ brokenName.toList ∧
    (Listing.gather (fun _ => .ok [.named (Utf8.encode brokenName)]) (.ofString "d")).value =
      .ok brokenReport.fixtures ∧
    (brokenReport.run {}).state.taken =
      Utf8.encode "Success: d/a\nSuccess: b\n\n1 passed, 0 failed in 0.00s\n" ∧
    unindented (brokenReport.run {}).state.taken ≠
      [Utf8.encode ("Success: " ++ Listing.join "d" brokenName), [],
        Utf8.encode "1 passed, 0 failed in 0.00s", []] ∧
    Console.read? (brokenReport.run {}).state.taken =
      some ([(.succeeded, "d/a"), (.succeeded, "b")],
        Utf8.encode "1 passed, 0 failed in 0.00s") := by
  have found : Listing.fixturesAmong "d" [.named (Utf8.encode brokenName)] =
      brokenReport.fixtures := by
    decide +kernel
  have taken : (brokenReport.run {}).state.taken =
      Utf8.encode "Success: d/a\nSuccess: b\n\n1 passed, 0 failed in 0.00s\n" := by
    decide +kernel
  refine ⟨by decide, by decide, ?_, taken, ?_, ?_⟩
  · rw [Listing.gather_of_listed rfl, found]
  · rw [taken]
    decide +kernel
  · rw [taken]
    decide +kernel

end Plan

end Conformance
