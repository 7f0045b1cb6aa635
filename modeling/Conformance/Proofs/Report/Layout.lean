import Conformance.Proofs.Report.ClosingLine
import Conformance.Proofs.Report.Color

/-! # The layout of console reports

The report of a run that comes to a summary is a single notice if there was no fixture, and else a
block for each fixture attempted, an empty line and a line with the counts.  How it begins is
decided by the number of fixtures and how it ends by the number of verdicts; that the two agree is
a fact about runs (`total_eq_zero_of_summary`).

Blocks are told apart by the words they begin with, so the closing line can be checked against
what stands above it (`closingLine_eq_lineBeneath`).
-/

namespace Conformance

/-! ## Runs that come to a summary -/

namespace Plan

section

variable {σ : Type} {plan : Plan σ} {state : σ} {fixtures : List Fixture} {summary : Summary}

theorem attempted_prefix_fixtures : plan.attempted fixtures <+: fixtures := by
  induction fixtures with
  | nil => exact List.prefix_rfl
  | cons fixture rest ih =>
    rw [attempted]
    split
    · simp
    · exact (List.prefix_cons_inj fixture).mpr ih

theorem map_fixture_judgements
    (clear : ∀ fixture ∈ fixtures, plan.obstacleOn fixture = none) :
    (fixtures.filterMap plan.judgement?).map Judgement.fixture = fixtures := by
  induction fixtures with
  | nil => rfl
  | cons fixture rest ih =>
    have tail := ih fun other member => clear other (List.mem_cons_of_mem _ member)
    cases observed : (plan.invoke fixture).value with
    | error obstacle =>
      -- Then the fixture would be an obstacle.
      have met := clear fixture (List.mem_cons_self ..)
      simp [obstacleOn_of_error observed] at met
    | ok invocation =>
      rw [List.filterMap_cons_some (judgement?_of_ok observed), List.map_cons, tail]
      rfl

/-- The judgements on the fixtures that are attempted. -/
def judgements (plan : Plan σ) : List Judgement :=
  (plan.attempted plan.fixtures).filterMap plan.judgement?

theorem map_fixture_of_summary (ends : (plan.run state).result = .ok summary) :
    plan.judgements.map Judgement.fixture = plan.attempted plan.fixtures :=
  map_fixture_judgements (run_of_ok ends).2.1

/-- A run that comes to a summary reports a judgement on each fixture attempted, and sums these
    up. -/
theorem run_of_summary (ends : (plan.run state).result = .ok summary) :
    plan.judgements.map Judgement.fixture = Effect.invocations (plan.run state).effects ∧
      Effect.invocations (plan.run state).effects <+: plan.fixtures ∧
      Effect.events (plan.run state).effects =
        .started plan.fixtures.length :: (plan.judgements.map .judged ++ [.completed summary]) ∧
      summary = ⟨Tally.ofVerdicts (plan.judgements.map Judgement.verdict), plan.fixtures.length,
        decide (plan.judgements.length < plan.fixtures.length), plan.elapsed⟩ := by
  obtain ⟨follows, clear, -⟩ := run_of_ok ends
  -- No call of the reporter failed, so the run came to what the plan says.
  have comes : plan.verdictOnRun = .ok summary := by
    rw [run_eq_relay] at ends
    exact Reporter.eq_of_relay_ok ends
  have fixtures := map_fixture_of_summary ends
  have verdicts : plan.verdicts (plan.attempted plan.fixtures) =
      plan.judgements.map Judgement.verdict := by
    rw [judgements, List.map_filterMap]
    rfl
  have count : (plan.attempted plan.fixtures).length = plan.judgements.length := by
    rw [← fixtures, List.length_map]
  refine ⟨?_, ?_, ?_, ?_⟩
  · rw [follows, invocations_script, fixtures]
  · rw [follows, invocations_script]
    exact attempted_prefix_fixtures
  · rw [follows]
    simp only [script, closing, comes, events_course, Effect.events_notified, Effect.events_append,
      Effect.events_nil, judgements, List.map_filterMap]
  · rw [verdictOnRun_of_clear (List.findSome?_eq_none_iff.mpr clear), verdicts, count] at comes
    injection comes with comes
    exact comes.symm

theorem judgements_eq_nil_of_summary (ends : (plan.run state).result = .ok summary) :
    plan.judgements = [] ↔ plan.fixtures = [] := by
  rw [← List.map_eq_nil_iff, map_fixture_of_summary ends]
  constructor
  · intro idle
    by_contra nonempty
    exact attempted_ne_nil nonempty idle
  · intro empty
    rw [empty, attempted]

/-- Whether a run counts anything at its end is decided at its beginning. -/
theorem total_eq_zero_of_summary (ends : (plan.run state).result = .ok summary) :
    summary.tally.total = 0 ↔ plan.fixtures = [] := by
  obtain ⟨-, -, -, rfl⟩ := run_of_summary ends
  rw [Tally.total_ofVerdicts, List.length_map, List.length_eq_zero_iff,
    judgements_eq_nil_of_summary ends]

theorem stoppedEarly_of_summary (ends : (plan.run state).result = .ok summary) :
    summary.stoppedEarly = decide (plan.judgements.length < plan.fixtures.length) := by
  obtain ⟨-, -, -, rfl⟩ := run_of_summary ends
  rfl

theorem stoppedEarly_of_total_eq_zero (ends : (plan.run state).result = .ok summary)
    (idle : summary.tally.total = 0) : summary.stoppedEarly = false := by
  rw [stoppedEarly_of_summary ends, (total_eq_zero_of_summary ends).mp idle]
  rfl

end

end Plan

namespace Console

open Text (lineFeed)

/-! ## Blocks -/

/-- What is written for a judged fixture. -/
def blockOf (console : Console) (judgement : Judgement) : List UInt8 :=
  Utf8.encode (console.render (.judged judgement))

/-- Whether a block begins with the word for a verdict, painted or not. -/
def opensWith (console : Console) (verdict : Verdict) (written : List UInt8) : Bool :=
  (Utf8.encode (console.paint (verdictColor verdict) (statusWord verdict))).isPrefixOf written

theorem blockOf_eq (console : Console) (judgement : Judgement) :
    console.blockOf judgement =
      Utf8.encode (console.paint (verdictColor judgement.verdict) (statusWord judgement.verdict)) ++
        (Utf8.encode (" " ++ judgement.fixture.id ++
          if console.verbose then details judgement else "") ++
          lineFeed :: Utf8.encode (captured judgement)) := by
  simp only [blockOf, render, header, Utf8.encode_append, List.append_assoc]
  rfl

theorem opensWith_blockOf (console : Console) (verdict : Verdict) (judgement : Judgement) :
    console.opensWith verdict (console.blockOf judgement) = decide (judgement.verdict = verdict) := by
  -- No word is the beginning of another, painted or not.
  have apart : ∀ first second : Verdict,
      Utf8.encode (console.paint (verdictColor first) (statusWord first)) <+:
        Utf8.encode (console.paint (verdictColor second) (statusWord second)) →
      first = second := by
    intro first second
    unfold paint
    split <;> cases first <;> cases second <;> decide
  rw [opensWith, blockOf_eq, Bool.eq_iff_iff, List.isPrefixOf_iff_prefix, decide_eq_true_eq]
  constructor
  · intro begins
    rcases List.prefix_or_prefix_of_prefix begins (List.prefix_append _ _) with shorter | longer
    · exact (apart _ _ shorter).symm
    · exact apart _ _ longer
  · rintro rfl
    exact List.prefix_append ..

theorem countP_opensWith (console : Console) (verdict : Verdict) (judgements : List Judgement) :
    (judgements.map console.blockOf).countP (console.opensWith verdict) =
      (judgements.map Judgement.verdict).count verdict := by
  rw [List.countP_map, List.count, List.countP_map]
  apply List.countP_congr
  intro judgement _
  simp [opensWith_blockOf]

theorem exists_opensWith (console : Console) (verdict : Verdict) (judgements : List Judgement) :
    (∃ block ∈ judgements.map console.blockOf, console.opensWith verdict block = true) ↔
      (judgements.map Judgement.verdict).count verdict ≠ 0 := by
  rw [← countP_opensWith console, ← List.countP_pos_iff, Nat.pos_iff_ne_zero]

/-- The line that belongs beneath blocks: how many there are for each verdict, timeouts only if
    there are any, and whether there are fewer than fixtures. -/
def lineBeneath (console : Console) (blocks : List (List UInt8)) (fixtureCount : Nat)
    (elapsed : Duration) : String :=
  let count (verdict : Verdict) := toString (blocks.countP (console.opensWith verdict))
  count .succeeded ++ " passed, " ++ count .failed ++ " failed" ++
    (if blocks.any (console.opensWith .timedOut) then ", " ++ count .timedOut ++ " timed out"
      else "") ++
    " in " ++ elapsed.showSeconds ++ "s" ++
    if blocks.length < fixtureCount then " (stopped after first failure)" else ""

theorem closingLine_eq_lineBeneath (console : Console) (judgements : List Judgement)
    (fixtureCount : Nat) (elapsed : Duration) :
    closingLine ⟨Tally.ofVerdicts (judgements.map Judgement.verdict), fixtureCount,
        decide (judgements.length < fixtureCount), elapsed⟩ =
      console.lineBeneath (judgements.map console.blockOf) fixtureCount elapsed := by
  simp only [closingLine, counts, lineBeneath, Tally.ofVerdicts_eq, countP_opensWith,
    List.length_map, decide_eq_true_eq, List.any_eq_true, exists_opensWith, ite_not]

/-! ## The notice -/

/-- What a report says if there is no fixture. -/
def notice : List UInt8 := Utf8.encode "No fixtures collected"

/-- Whether bytes stand in a text that a judged fixture brings into a report: in the identifier,
    or in captured output that is shown. -/
def Brings (judgement : Judgement) (phrase : List UInt8) : Prop :=
  phrase <:+: Utf8.encode judgement.fixture.id ∨
    judgement.verdict.isSuccess = false ∧
      (phrase <:+: Utf8.encode judgement.invocation.stdoutText ∨
        phrase <:+: Utf8.encode judgement.invocation.stderrText)

theorem encode_notice : Utf8.encode "No fixtures collected\n" = notice ++ [lineFeed] := by decide

theorem lineFeed_not_mem_notice : lineFeed ∉ notice := by decide

theorem notice_absent {bytes : List UInt8} (free : 'N'.toUInt8 ∉ bytes) :
    ¬ notice <:+: bytes := by
  intro found
  exact free (found.subset (by decide))

theorem not_mem_of_lowercase {text : String} (lowercase : Text.Lowercase text.toList) :
    'N'.toUInt8 ∉ Utf8.encode text := by
  rw [Utf8.mem_encode (by decide) (rfl : 'N'.toNat = 'N'.toUInt8.toNat)]
  exact lowercase.not_mem (by decide)

theorem not_mem_paint (console : Console) (color : Color) {text : String} {b : UInt8}
    (other : ∀ code ∈ codes, b ∉ code) (free : b ∉ Utf8.encode text) :
    b ∉ Utf8.encode (console.paint color text) := by
  unfold paint
  split
  · rw [Utf8.encode_append, Utf8.encode_append, List.mem_append, List.mem_append, not_or, not_or]
    exact ⟨⟨other _ (opening_mem_codes color), free⟩, other _ closing_mem_codes⟩
  · exact free

theorem notice_infix_line {line : List UInt8} (found : notice <:+: line ++ [lineFeed]) :
    notice <:+: line :=
  (Text.infix_barrier lineFeed_not_mem_notice found).resolve_right
    (notice_absent List.not_mem_nil)

/-- The notice does not reach over the end of a line. -/
theorem notice_infix_append {bytes rest : List UInt8} (lined : Lined bytes)
    (found : notice <:+: bytes ++ rest) : notice <:+: bytes ∨ notice <:+: rest := by
  rcases lined with rfl | ⟨front, rfl⟩
  · exact .inr found
  · rw [List.append_assoc, List.singleton_append] at found
    apply (Text.infix_barrier lineFeed_not_mem_notice found).imp_left
    intro inside
    exact inside.trans (List.prefix_append front _).isInfix

theorem notice_infix_flatMap {α : Type} {all : List α} {bytes : α → List UInt8}
    (lined : ∀ a, Lined (bytes a)) (found : notice <:+: all.flatMap bytes) :
    ∃ a ∈ all, notice <:+: bytes a := by
  induction all with
  | nil => exact absurd found (notice_absent List.not_mem_nil)
  | cons a rest ih =>
    rw [List.flatMap_cons] at found
    rcases notice_infix_append (lined a) found with here | later
    · exact ⟨a, List.mem_cons_self .., here⟩
    · obtain ⟨other, member, inside⟩ := ih later
      exact ⟨other, List.mem_cons_of_mem _ member, inside⟩

theorem notice_infix_block {text : String} (found : notice <:+: Utf8.encode (block text)) :
    notice <:+: Utf8.encode text := by
  rw [encode_block] at found
  obtain ⟨row, member, inside⟩ := notice_infix_flatMap (fun row => lined_line (Text.tab :: row))
    found
  obtain ⟨line, shown, rfl⟩ := List.mem_map.mp member
  -- Neither the tab nor the line feed is part of the notice.
  have alone : notice <:+: Utf8.encode (String.ofList line) := by
    have behind : notice <:+: [Text.tab] ++ (Utf8.encode (String.ofList line) ++ [lineFeed]) :=
      inside
    have row := Text.infix_of_infix_append rfl (by decide) behind
    exact notice_infix_line row
  obtain ⟨before, behind, whole⟩ := Text.infix_of_mem_lines shown
  refine alone.trans ⟨Utf8.encode (String.ofList before), Utf8.encode (String.ofList behind), ?_⟩
  rw [← Utf8.encode_append, ← Utf8.encode_append, ← String.ofList_append, ← String.ofList_append,
    whole, String.ofList_toList]

theorem notice_infix_captured {judgement : Judgement}
    (found : notice <:+: Utf8.encode (captured judgement)) :
    judgement.verdict.isSuccess = false ∧
      (notice <:+: Utf8.encode judgement.invocation.stdoutText ∨
        notice <:+: Utf8.encode judgement.invocation.stderrText) := by
  unfold captured at found
  split at found
  next => exact absurd found (notice_absent List.not_mem_nil)
  next failure =>
    refine ⟨by simpa using failure, ?_⟩
    split at found
    · exact absurd found (notice_absent (by decide))
    · rw [Utf8.encode_append] at found
      rcases notice_infix_append (lined_block _) found with stdout | stderr
      · exact .inl (notice_infix_block stdout)
      · exact .inr (notice_infix_block stderr)

/-- The notice contains no bracket and ends with a letter, so it does not reach into the
    details. -/
theorem notice_infix_details {judgement : Judgement}
    (found : notice <:+: Utf8.encode judgement.fixture.id ++ Utf8.encode (details judgement)) :
    notice <:+: Utf8.encode judgement.fixture.id := by
  obtain ⟨more, shape⟩ : ∃ more, Utf8.encode (details judgement) = 0x20 :: 0x28 :: more := by
    simp only [details, Utf8.encode_append, List.append_assoc]
    exact ⟨_, rfl⟩
  -- Behind the bracket all is in lower case, and before it stands one blank too many.
  have free := not_mem_of_lowercase (lowercase_details judgement)
  rw [shape, List.mem_cons, List.mem_cons, not_or, not_or] at free
  rw [shape, List.append_cons] at found
  have early := (Text.infix_barrier (by decide) found).resolve_right (notice_absent free.2.2)
  rw [List.infix_concat_iff, List.suffix_concat_iff] at early
  apply early.resolve_left
  rintro (empty | ⟨front, ends, -⟩)
  · exact absurd empty (by decide)
  · have last := congrArg List.getLast? ends
    rw [List.getLast?_concat] at last
    exact absurd last (by decide)

theorem notice_infix_header {console : Console} {judgement : Judgement}
    (found : notice <:+: Utf8.encode (console.header judgement)) :
    notice <:+: Utf8.encode judgement.fixture.id := by
  have word : 'N'.toUInt8 ∉ Utf8.encode (console.paint (verdictColor judgement.verdict)
      (statusWord judgement.verdict) ++ " ") := by
    rw [Utf8.encode_append, List.mem_append, not_or]
    refine ⟨not_mem_paint console _ (by decide) ?_, by decide⟩
    cases judgement.verdict <;> decide
  rw [header, Utf8.encode_append, String.append_assoc, Utf8.encode_append] at found
  have named := Text.infix_of_infix_append rfl word (notice_infix_line found)
  rw [Utf8.encode_append] at named
  split at named
  · exact notice_infix_details named
  · rwa [Utf8.encode_empty, List.append_nil] at named

/-- The notice stands in a block only if the fixture brings it with it. -/
theorem notice_infix_blockOf {console : Console} {judgement : Judgement}
    (found : notice <:+: console.blockOf judgement) : Brings judgement notice := by
  have lined : Lined (Utf8.encode (console.header judgement)) := by
    rw [header, Utf8.encode_append]
    exact lined_line _
  rw [blockOf, render, Utf8.encode_append] at found
  rcases notice_infix_append lined found with above | beneath
  · exact .inl (notice_infix_header above)
  · exact .inr (notice_infix_captured beneath)

/-! ## Whole reports -/

/-- The closing line of a report as it is written. -/
def closingBytes (console : Console) (summary : Summary) : List UInt8 :=
  Utf8.encode (console.paint (tallyColor summary.tally) (closingLine summary))

theorem lineFeed_not_mem_closingBytes (console : Console) (summary : Summary) :
    lineFeed ∉ console.closingBytes summary := by
  apply not_mem_paint console _ (by decide)
  rw [Text.lineFeed_mem_encode]
  exact (printable_closingLine summary).not_mem (by decide)

theorem notice_absent_closingBytes (console : Console) (summary : Summary) :
    ¬ notice <:+: console.closingBytes summary :=
  notice_absent (not_mem_paint console _ (by decide)
    (not_mem_of_lowercase (lowercase_closingLine summary)))

theorem written_report (console : Console) {count : Nat} (some : count ≠ 0)
    (judgements : List Judgement) {summary : Summary} (attempted : summary.tally.total ≠ 0) :
    (Style.console console).written
        (.started count :: (judgements.map .judged ++ [.completed summary])) =
      (judgements.map console.blockOf).flatten ++
        lineFeed :: (console.closingBytes summary ++ [lineFeed]) := by
  have opening : Utf8.encode (console.render (.started count)) = [] := by
    rw [render, if_neg some]
    rfl
  have closes : Utf8.encode (console.render (.completed summary)) =
      lineFeed :: (console.closingBytes summary ++ [lineFeed]) := by
    rw [render, if_neg attempted, String.append_assoc, Utf8.encode_append, Utf8.encode_append]
    rfl
  rw [Style.written, List.flatMap_cons, List.flatMap_append, List.flatMap_map,
    List.flatMap_singleton]
  show Utf8.encode (console.render (.started count)) ++ (judgements.flatMap console.blockOf ++
    Utf8.encode (console.render (.completed summary))) = _
  rw [opening, closes, List.nil_append, List.flatMap_def]

theorem getLast?_blocks (console : Console) {judgements : List Judgement}
    (nonempty : judgements ≠ []) :
    (judgements.map console.blockOf).flatten.getLast? = some lineFeed := by
  have lined : Lined (judgements.map console.blockOf).flatten := by
    clear nonempty
    induction judgements with
    | nil => exact lined_nil
    | cons judgement rest ih => exact (lined_render console (.judged judgement)).append ih
  rcases lined with empty | ⟨front, shape⟩
  · -- The first block has a line feed in it.
    obtain ⟨judgement, rest, rfl⟩ := List.exists_cons_of_ne_nil nonempty
    simp [blockOf_eq] at empty
  · rw [shape, List.getLast?_concat]

theorem notice_infix_report {console : Console} {judgements : List Judgement} {summary : Summary}
    (found : notice <:+: (judgements.map console.blockOf).flatten ++
      lineFeed :: (console.closingBytes summary ++ [lineFeed])) :
    ∃ judgement ∈ judgements, Brings judgement notice := by
  have blocks := (Text.infix_barrier lineFeed_not_mem_notice found).resolve_right fun later =>
    notice_absent_closingBytes console summary (notice_infix_line later)
  rw [← List.flatMap_def] at blocks
  obtain ⟨judgement, told, inside⟩ := notice_infix_flatMap
    (fun judgement => lined_render console (.judged judgement)) blocks
  exact ⟨judgement, told, notice_infix_blockOf inside⟩

/-! ## Last lines -/

/-- The last line of a report. -/
def lastLine (report : List UInt8) : List UInt8 := (Text.rows report).dropLast.getLastD []

theorem lastLine_report {line : List UInt8} (unbroken : lineFeed ∉ line) (front : List UInt8) :
    lastLine (front ++ lineFeed :: (line ++ [lineFeed])) = line := by
  rw [lastLine, Text.rows_append, Text.rows_cons unbroken, Text.rows_nil]
  simp

theorem lastLine_notice : lastLine (notice ++ [lineFeed]) = notice := by
  rw [lastLine, Text.rows_cons lineFeed_not_mem_notice, Text.rows_nil]
  simp

/-- What the last line of a report says. -/
def lastWords (summary : Summary) : String :=
  if summary.tally.total = 0 then "No fixtures collected" else closingLine summary

theorem lastWords_inj {first second : Summary} (duration : first.duration = second.duration)
    (firstWhole : first.tally.total = 0 → first.stoppedEarly = false)
    (secondWhole : second.tally.total = 0 → second.stoppedEarly = false)
    (same : lastWords first = lastWords second) :
    first.tally = second.tally ∧ first.stoppedEarly = second.stoppedEarly := by
  have apart (summary : Summary) : "No fixtures collected" ≠ closingLine summary := by
    intro same
    have free := (lowercase_closingLine summary).not_mem (show 'A' ≤ 'N' ∧ 'N' ≤ 'Z' by decide)
    rw [← same] at free
    exact free (by decide)
  -- Only if both runs counted nothing, or both counted something, can the lines be the same.
  by_cases here : first.tally.total = 0 <;> by_cases there : second.tally.total = 0
  · refine ⟨?_, (firstWhole here).trans (secondWhole there).symm⟩
    cases tally : first.tally
    cases other : second.tally
    simp only [Tally.total, tally, other, Tally.mk.injEq] at here there ⊢
    omega
  · simp only [lastWords, if_pos here, if_neg there] at same
    exact absurd same (apart second)
  · simp only [lastWords, if_neg here, if_pos there] at same
    exact absurd same.symm (apart first)
  · simp only [lastWords, if_neg here, if_neg there] at same
    exact closingLine_inj duration same

end Console

namespace Plan

open Console (notice lastLine lastWords)
open Text (lineFeed)

section

variable {plan : Plan Sink} {look : Console} {summary : Summary}

theorem taken_of_summary (reports : plan.reporter = (Style.console look).reporter)
    (ends : (plan.run {}).result = .ok summary) :
    (plan.run {}).state.taken =
      if plan.fixtures = [] then notice ++ [lineFeed]
      else (plan.judgements.map look.blockOf).flatten ++
        lineFeed :: (look.closingBytes summary ++ [lineFeed]) := by
  obtain ⟨effects, -, taken⟩ := run_over_soundSink reports
  obtain ⟨-, -, events, -⟩ := run_of_summary ends
  rw [taken, ← effects, events]
  have total := total_eq_zero_of_summary ends
  split
  next empty =>
    -- All is said at the start, and the summary adds nothing.
    have none : plan.judgements = [] := by
      rw [judgements, empty]
      rfl
    have silent : look.render (.completed summary) = "" := by
      rw [Console.render, if_pos (total.mpr empty)]
    rw [none, empty, Style.written]
    show Utf8.encode "No fixtures collected\n" ++
      (Utf8.encode (look.render (.completed summary)) ++ []) = _
    rw [silent, Console.encode_notice, Utf8.encode_empty, List.append_nil, List.append_nil]
  next nonempty =>
    exact look.written_report (by simpa using nonempty) _ (total.not.mpr nonempty)

theorem strip_lastLine (reports : plan.reporter = (Style.console look).reporter)
    (ends : (plan.run {}).result = .ok summary) :
    Console.strip (lastLine (plan.run {}).state.taken) = Utf8.encode (lastWords summary) := by
  rw [taken_of_summary reports ends, lastWords]
  have total := total_eq_zero_of_summary ends
  by_cases empty : plan.fixtures = []
  · rw [if_pos empty, if_pos (total.mpr empty), Console.lastLine_notice]
    exact Console.strip_of_plain (by decide)
  · rw [if_neg empty, if_neg (total.not.mpr empty),
      Console.lastLine_report (look.lineFeed_not_mem_closingBytes summary)]
    have painted := look.strip_paint (Console.tallyColor summary.tally)
      (Console.plain_of_printable (Console.printable_closingLine summary)) []
    rwa [List.append_nil, Console.strip.eq_1, List.append_nil] at painted

/-- The last line tells whether a run stopped early and what it counts. -/
theorem lastLine_inj {other : Plan Sink} {otherLook : Console} {otherSummary : Summary}
    (reports : plan.reporter = (Style.console look).reporter)
    (ends : (plan.run {}).result = .ok summary)
    (otherReports : other.reporter = (Style.console otherLook).reporter)
    (otherEnds : (other.run {}).result = .ok otherSummary)
    (duration : summary.duration = otherSummary.duration)
    (same : Console.strip (lastLine (plan.run {}).state.taken) =
      Console.strip (lastLine (other.run {}).state.taken)) :
    summary.tally = otherSummary.tally ∧ summary.stoppedEarly = otherSummary.stoppedEarly := by
  rw [strip_lastLine reports ends, strip_lastLine otherReports otherEnds] at same
  have words : lastWords summary = lastWords otherSummary := by
    have read := congrArg Utf8.decode? same
    rwa [Utf8.decode?_encode, Utf8.decode?_encode, Option.some.injEq] at read
  exact Console.lastWords_inj duration (stoppedEarly_of_total_eq_zero ends)
    (stoppedEarly_of_total_eq_zero otherEnds) words

end

/-- The console report of a run that comes to a summary.  Without fixtures it is the notice that
    there are none, and only then.  Else it consists of a block for each fixture attempted, in
    order, an empty line and a closing line, and the notice stands in it only where a fixture
    brings it along.  The closing line counts the blocks by their verdicts, mentions timeouts if
    and only if there is a block of one, and says that the run stopped if and only if there are
    fewer blocks than fixtures.  Apart from its colours it tells all of this: if two runs took the
    same time and differ in their counts or in whether they stopped early, their reports differ
    in the last line. -/
theorem run_consoleReport (plan : Plan Sink) (look : Console)
    (reports : plan.reporter = (Style.console look).reporter) (summary : Summary)
    (ends : (plan.run {}).result = .ok summary) :
    let output := (plan.run {}).state.taken
    let attempted := Effect.invocations (plan.run {}).effects
    ∃ judgements : List Judgement,
      Effect.events (plan.run {}).effects =
        .started plan.fixtures.length :: (judgements.map .judged ++ [.completed summary]) ∧
      judgements.map Judgement.fixture = attempted ∧ attempted <+: plan.fixtures ∧
      (plan.fixtures.length = 0 ↔ summary.tally.total = 0) ∧
      (output = Utf8.encode "No fixtures collected\n" ↔ plan.fixtures = []) ∧
      (plan.fixtures ≠ [] →
        let blocks := judgements.map look.blockOf
        let line := look.lineBeneath blocks plan.fixtures.length plan.elapsed
        let painted := Utf8.encode (look.paint (Console.tallyColor summary.tally) line)
        output = blocks.flatten ++ lineFeed :: (painted ++ [lineFeed]) ∧
        blocks.flatten.getLast? = some lineFeed ∧ lineFeed ∉ painted ∧
        (notice <:+: output → ∃ judgement ∈ judgements, Console.Brings judgement notice) ∧
        (" timed out".toList <:+: line.toList ↔
          ∃ block ∈ blocks, look.opensWith .timedOut block = true) ∧
        (" (stopped after first failure)".toList <:+: line.toList ↔
          blocks.length < plan.fixtures.length)) ∧
      ∀ (other : Plan Sink) (otherLook : Console) (otherSummary : Summary),
        other.reporter = (Style.console otherLook).reporter →
        (other.run {}).result = .ok otherSummary →
        otherSummary.duration = summary.duration →
        otherSummary.tally ≠ summary.tally ∨ otherSummary.stoppedEarly ≠ summary.stoppedEarly →
        Console.strip (lastLine (other.run {}).state.taken) ≠ Console.strip (lastLine output) := by
  intro output attempted
  obtain ⟨fixtures, early, events, sums⟩ := run_of_summary ends
  have total := total_eq_zero_of_summary ends
  have taken : output = _ := taken_of_summary reports ends
  refine ⟨plan.judgements, events, fixtures, early, ?_, ?_, ?_, ?_⟩
  · rw [List.length_eq_zero_iff, total]
  · rw [taken]
    constructor
    · intro same
      by_contra nonempty
      -- The last line would be the notice, but it is the closing line.
      rw [if_neg nonempty, Console.encode_notice] at same
      have last := congrArg lastLine same
      rw [Console.lastLine_report (look.lineFeed_not_mem_closingBytes summary),
        Console.lastLine_notice] at last
      exact look.notice_absent_closingBytes summary (by simp only [last, List.infix_rfl])
    · intro empty
      rw [if_pos empty, Console.encode_notice]
  · intro nonempty blocks line painted
    have closes : Console.closingLine summary = line := by
      rw [sums]
      exact look.closingLine_eq_lineBeneath plan.judgements _ _
    have bytes : look.closingBytes summary = painted := by
      rw [Console.closingBytes, closes]
    have stops := stoppedEarly_of_summary ends
    rw [if_neg nonempty, bytes] at taken
    refine ⟨taken, ?_, ?_, ?_, ?_, ?_⟩
    · exact look.getLast?_blocks ((judgements_eq_nil_of_summary ends).not.mpr nonempty)
    · rw [← bytes]
      exact look.lineFeed_not_mem_closingBytes summary
    · intro found
      rw [taken, ← bytes] at found
      exact Console.notice_infix_report found
    · rw [← closes, Console.infix_late, look.exists_opensWith, sums, Tally.ofVerdicts_eq]
    · rw [← closes, Console.infix_stopped, stops]
      simp [blocks]
  · intro other otherLook otherSummary otherReports otherEnds duration apart same
    obtain ⟨tally, stops⟩ := lastLine_inj otherReports otherEnds reports ends duration same
    exact apart.elim (· tally) (· stops)

/-- A subject that accepts one fixture and hangs on all others, with the notice as its output. -/
def sluggish (fixture : Fixture) : Invocation :=
  if fixture = ⟨"d/a"⟩ then .exited 0 else { timedOut := true, stdout := notice }

def stalledReport : Plan Sink where
  fixtures := [⟨"d/a"⟩, ⟨"d/b"⟩, ⟨"d/c"⟩]
  invoke fixture := { value := .ok (sluggish fixture) }
  expect := .marked "fail"
  reporter := (Style.console {}).reporter
  failFast := true

theorem stalledReport_consoleReport :
    let patient := { stalledReport with failFast := false }
    (stalledReport.run {}).result = .ok ⟨⟨1, 0, 1⟩, 3, true, .zero⟩ ∧
    (stalledReport.run {}).state.taken = Utf8.encode "Success: d/a\n" ++
      Utf8.encode "Timeout: d/b\n\tNo fixtures collected\n" ++ lineFeed :: (Utf8.encode
        "1 passed, 0 failed, 1 timed out in 0.00s (stopped after first failure)" ++ [lineFeed]) ∧
    Console.strip (lastLine (patient.run {}).state.taken) ≠
      Console.strip (lastLine (stalledReport.run {}).state.taken) := by
  intro patient
  have ends : (stalledReport.run {}).result = .ok ⟨⟨1, 0, 1⟩, 3, true, .zero⟩ := by
    decide +kernel
  obtain ⟨judgements, events, -, -, -, -, laidOut, apart⟩ :=
    stalledReport.run_consoleReport {} rfl _ ends
  obtain ⟨taken, -⟩ := laidOut (by decide)
  have same : stalledReport.judgements = judgements := by
    rw [(run_of_summary ends).2.2.1, List.cons.injEq] at events
    exact List.map_injective_iff.mpr (fun _ _ => Event.judged.inj)
      (List.append_inj_left' events.2 rfl)
  rw [← same] at taken
  refine ⟨ends, taken.trans (by decide +kernel), ?_⟩
  exact apart patient {} ⟨⟨1, 0, 2⟩, 3, false, .zero⟩ rfl (by decide +kernel) rfl (by decide)

end Plan

end Conformance
