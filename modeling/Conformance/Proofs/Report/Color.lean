import Conformance.Proofs.Report.Beneath
import Conformance.Proofs.Report.ConsoleLines
import Conformance.Proofs.Report.Deliveries
import Mathlib.Data.List.Find

/-! # Coloured reports

A coloured report is the plain report with escape sequences in it.  Identifiers and captured
output may contain escape sequences of their own, or parts of such, so this is said by deleting
every sequence from both reports: what is left is the same (`strip_written`).

Nothing that a report puts in can complete a sequence that was begun in a text.  Behind every text
comes a line feed, which is part of no sequence (`strip_barrier`), and what is painted is free of
the byte with which sequences begin (`strip_paint`).
-/

namespace Conformance

namespace Console

open Text (lineFeed)

/-- The byte with which escape sequences begin. -/
def escape : UInt8 := 0x1B

/-- The escape sequences of coloured reports. -/
def codes : List (List UInt8) :=
  [Color.green.opening, Color.red.opening, Color.yellow.opening, closing].map Utf8.encode

/-- Bytes without the escape sequences of coloured reports, deleted in one pass. -/
def strip : List UInt8 → List UInt8
  | [] => []
  | b :: rest =>
    match codes.find? (·.isPrefixOf (b :: rest)) with
    | some code => strip (rest.drop (code.length - 1))
    | none => b :: strip rest
termination_by bytes => bytes.length
decreasing_by all_goals simp; try omega

/-- At how many places a sequence stands in bytes. -/
def occurrences (code : List UInt8) : List UInt8 → Nat
  | [] => 0
  | b :: rest => occurrences code rest + if code.isPrefixOf (b :: rest) then 1 else 0

/-! ## Sequences -/

theorem mem_codes {code : List UInt8} (member : code ∈ codes) :
    ∃ tail, code = escape :: tail ∧ escape ∉ tail ∧ lineFeed ∉ code := by
  simp only [codes, List.map_cons, List.map_nil, List.mem_cons, List.not_mem_nil, or_false] at member
  rcases member with rfl | rfl | rfl | rfl <;> exact ⟨_, rfl, by decide, by decide⟩

/-- No sequence is the beginning of another. -/
theorem eq_of_begins {code other rest : List UInt8} (member : code ∈ codes)
    (otherMember : other ∈ codes) (begins : code <+: other ++ rest) : code = other := by
  have apart : ∀ a ∈ codes, ∀ b ∈ codes, a <+: b → a = b := by decide
  rcases List.prefix_or_prefix_of_prefix begins (List.prefix_append other rest) with
    shorter | longer
  · exact apart code member other otherMember shorter
  · exact (apart other otherMember code member longer).symm

theorem find?_of_ne {b : UInt8} (other : b ≠ escape) (rest : List UInt8) :
    codes.find? (·.isPrefixOf (b :: rest)) = none := by
  rw [List.find?_eq_none]
  intro code member begins
  obtain ⟨tail, rfl, -, -⟩ := mem_codes member
  rw [List.isPrefixOf_iff_prefix, List.cons_prefix_cons] at begins
  exact other begins.1.symm

theorem of_find? {text code : List UInt8}
    (found : codes.find? (·.isPrefixOf text) = some code) : code ∈ codes ∧ code <+: text := by
  have begins := List.find?_some found
  exact ⟨List.mem_of_find?_eq_some found, List.isPrefixOf_iff_prefix.mp begins⟩

/-! ## Deleting sequences -/

theorem strip_of_found {b : UInt8} {rest code : List UInt8}
    (found : codes.find? (·.isPrefixOf (b :: rest)) = some code) :
    strip (b :: rest) = strip (rest.drop (code.length - 1)) := by
  rw [strip, found]

theorem strip_of_unfound {b : UInt8} {rest : List UInt8}
    (unfound : codes.find? (·.isPrefixOf (b :: rest)) = none) :
    strip (b :: rest) = b :: strip rest := by
  rw [strip, unfound]

theorem strip_cons_of_ne {b : UInt8} (other : b ≠ escape) (rest : List UInt8) :
    strip (b :: rest) = b :: strip rest :=
  strip_of_unfound (find?_of_ne other rest)

theorem strip_append_of_plain {text : List UInt8} (plain : escape ∉ text) (rest : List UInt8) :
    strip (text ++ rest) = text ++ strip rest := by
  induction text with
  | nil => rfl
  | cons b text ih =>
    rw [List.mem_cons, not_or] at plain
    rw [List.cons_append, strip_cons_of_ne (Ne.symm plain.1), ih plain.2, List.cons_append]

theorem strip_of_plain {text : List UInt8} (plain : escape ∉ text) : strip text = text := by
  have alone := strip_append_of_plain plain []
  rwa [List.append_nil, strip, List.append_nil] at alone

theorem strip_code_append {code : List UInt8} (member : code ∈ codes) (rest : List UInt8) :
    strip (code ++ rest) = strip rest := by
  have found : codes.find? (·.isPrefixOf (code ++ rest)) = some code := by
    cases search : codes.find? (·.isPrefixOf (code ++ rest)) with
    | none =>
      rw [List.find?_eq_none] at search
      exact absurd (List.isPrefixOf_iff_prefix.mpr (List.prefix_append code rest))
        (search code member)
    | some other =>
      obtain ⟨otherMember, begins⟩ := of_find? search
      rw [eq_of_begins otherMember member begins]
  obtain ⟨tail, rfl, -, -⟩ := mem_codes member
  rw [List.cons_append] at found ⊢
  rw [strip_of_found found]
  simp

/-- A sequence that begins before a line feed ends before it. -/
theorem strip_barrier (text rest : List UInt8) :
    strip (text ++ lineFeed :: rest) = strip text ++ lineFeed :: strip rest := by
  have search (text : List UInt8) :
      codes.find? (·.isPrefixOf (text ++ lineFeed :: rest)) = codes.find? (·.isPrefixOf text) := by
    apply List.find?_congr
    intro code member
    obtain ⟨-, -, -, unbroken⟩ := mem_codes member
    rw [Bool.eq_iff_iff, List.isPrefixOf_iff_prefix, List.isPrefixOf_iff_prefix,
      Text.prefix_barrier unbroken]
  fun_induction strip text with
  | case1 => exact strip_cons_of_ne (by decide) rest
  | case2 b text code found ih =>
    have same := (search (b :: text)).trans found
    rw [List.cons_append] at same ⊢
    rw [strip_of_found same]
    -- The sequence ends before the line feed, so only the text is shortened by it.
    have short : code.length - 1 ≤ text.length := by
      have le := (of_find? found).2.length_le
      rw [List.length_cons] at le
      omega
    rw [List.drop_append_of_le_length short]
    exact ih
  | case3 b text unfound ih =>
    have same := (search (b :: text)).trans unfound
    rw [List.cons_append] at same ⊢
    rw [strip_of_unfound same, ih, List.cons_append]

/-! ## Lines -/

/-- Bytes whose last line, if there is one, is closed by a line feed. -/
def Lined (bytes : List UInt8) : Prop := bytes = [] ∨ ∃ front, bytes = front ++ [lineFeed]

theorem lined_nil : Lined [] := .inl rfl

theorem lined_line (text : List UInt8) : Lined (text ++ [lineFeed]) := .inr ⟨text, rfl⟩

theorem Lined.append {first second : List UInt8} (before : Lined first) (after : Lined second) :
    Lined (first ++ second) := by
  rcases after with rfl | ⟨front, rfl⟩
  · rwa [List.append_nil]
  · exact .inr ⟨first ++ front, by rw [List.append_assoc]⟩

theorem lined_block (text : String) : Lined (Utf8.encode (block text)) := by
  rw [encode_block]
  induction encodedLines text.toList with
  | nil => exact lined_nil
  | cons line rest ih => exact (lined_line (Text.tab :: line)).append ih

theorem lined_captured (judgement : Judgement) : Lined (Utf8.encode (captured judgement)) := by
  unfold captured
  split
  · exact lined_nil
  · split
    · exact lined_line (Utf8.encode "\t(no output)")
    · rw [Utf8.encode_append]
      exact (lined_block _).append (lined_block _)

/-- What is written for an event ends with a line, if anything is written at all. -/
theorem lined_render (console : Console) (event : Event) :
    Lined (Utf8.encode (console.render event)) := by
  have line (text : String) : Lined (Utf8.encode (text ++ "\n")) := by
    rw [Utf8.encode_append]
    exact lined_line _
  cases event with
  | started count =>
    rw [render]
    split
    · exact line "No fixtures collected"
    · exact lined_nil
  | judged judgement =>
    rw [render, Utf8.encode_append]
    exact (line _).append (lined_captured judgement)
  | completed summary =>
    rw [render]
    split
    · exact lined_nil
    · exact line _

/-- No sequence reaches over the end of a line. -/
theorem Lined.strip_append {bytes : List UInt8} (lined : Lined bytes) (rest : List UInt8) :
    strip (bytes ++ rest) = strip bytes ++ strip rest := by
  rcases lined with rfl | ⟨front, rfl⟩
  · rw [List.nil_append, strip.eq_1, List.nil_append]
  · rw [List.append_assoc, List.singleton_append, strip_barrier, strip_barrier, strip.eq_1]
    simp

/-! ## Painted text -/

theorem opening_mem_codes (color : Color) : Utf8.encode color.opening ∈ codes := by
  cases color <;> decide

theorem closing_mem_codes : Utf8.encode closing ∈ codes := by decide

theorem strip_paint (console : Console) (color : Color) {text : String}
    (plain : escape ∉ Utf8.encode text) (rest : List UInt8) :
    strip (Utf8.encode (console.paint color text) ++ rest) = Utf8.encode text ++ strip rest := by
  unfold paint
  split
  · rw [Utf8.encode_append, Utf8.encode_append, List.append_assoc, List.append_assoc,
      strip_code_append (opening_mem_codes color), strip_append_of_plain plain,
      strip_code_append closing_mem_codes]
  · exact strip_append_of_plain plain rest

/-! ## Plain text -/

theorem plain_of_printable {text : String} (printable : Text.Printable text.toList) :
    escape ∉ Utf8.encode text := by
  intro member
  exact absurd (printable.bytes member) (by decide)

theorem printable_statusWord (verdict : Verdict) : Text.Printable (statusWord verdict).toList := by
  cases verdict <;> decide

theorem lowercase_code (code : Int) : Text.Lowercase (toString code).toList := by
  cases code with
  | ofNat n =>
    rw [Json.toList_toString_ofNat]
    exact Text.lowercase_toDigits n
  | negSucc n =>
    rw [Json.toList_toString_negSucc, ← List.singleton_append, Text.lowercase_append]
    exact ⟨by decide, Text.lowercase_toDigits (n + 1)⟩

theorem lowercase_label (invocation : Invocation) : Text.Lowercase invocation.label.toList := by
  have timedOut : Text.Lowercase "timed out after ".toList := by decide
  have exited : Text.Lowercase "exit ".toList := by decide
  have signalled : Text.Lowercase "signal ".toList := by decide
  unfold Invocation.label
  split
  · simp only [String.toList_append, Text.lowercase_append, timedOut,
      Text.lowercase_showSeconds, true_and]
    decide
  · split
    · simp only [String.toList_append, Text.lowercase_append, exited, lowercase_code, true_and]
    · simp only [String.toList_append, Text.lowercase_append, signalled, lowercase_code, true_and]
    · decide

theorem lowercase_details (judgement : Judgement) : Text.Lowercase (details judgement).toList := by
  have expected : Text.Lowercase judgement.expected.label.toList := by
    cases judgement.expected <;> decide
  simp only [details, String.toList_append, Text.lowercase_append, expected, lowercase_label,
    Text.lowercase_toString, and_true]
  decide

theorem escape_mem_encode {text : String} : escape ∈ Utf8.encode text ↔ '\x1b' ∈ text.toList :=
  Utf8.mem_encode (by decide) rfl

theorem plain_block {bytes : List UInt8} (plain : escape ∉ bytes) :
    escape ∉ Utf8.encode (block (Utf8.decodeLossy bytes)) := by
  rw [encode_block, List.mem_flatMap]
  rintro ⟨row, member, found⟩
  obtain ⟨line, shown, rfl⟩ := List.mem_map.mp member
  have begins : escape ∈ Utf8.encode (String.ofList line) := by
    simpa [escape, Text.tab, lineFeed] using found
  rw [escape_mem_encode, String.toList_ofList] at begins
  exact plain (Utf8.mem_of_decodeLossy (by decide) rfl
    ((Text.infix_of_mem_lines shown).subset begins))

/-- No text that an event brings with it contains the byte with which sequences begin. -/
def Quiet (event : Event) : Prop :=
  ∀ judgement, event = .judged judgement →
    escape ∉ Utf8.encode judgement.fixture.id ∧
      escape ∉ judgement.invocation.stdout ∧ escape ∉ judgement.invocation.stderr

theorem plain_captured {judgement : Judgement} (quiet : Quiet (.judged judgement)) :
    escape ∉ Utf8.encode (captured judgement) := by
  obtain ⟨-, stdout, stderr⟩ := quiet judgement rfl
  unfold captured
  split
  · exact List.not_mem_nil
  · split
    · decide
    · rw [Utf8.encode_append, List.mem_append, not_or]
      exact ⟨plain_block stdout, plain_block stderr⟩

/-! ## What is written for an event -/

/-- The colour in which a report paints something of an event. -/
def ink : Event → Option Color
  | .started _ => none
  | .judged judgement => some (verdictColor judgement.verdict)
  | .completed summary =>
    if summary.tally.total = 0 then none
    else if summary.tally.failed = 0 ∧ summary.tally.timedOut = 0 then some .green
    else some .red

/-- How an event is written: without colour, or with one text painted, between others that are
    the same in a plain report. -/
inductive Written (verbose : Bool) (event : Event) : Option Color → Prop where
  | plain (text : String) (same : ∀ color, render ⟨color, verbose⟩ event = text)
      (textPlain : escape ∉ Utf8.encode text) : Written verbose event none
  | painted (color : Color) (before text behind : String)
      (same : ∀ colored, render ⟨colored, verbose⟩ event =
        before ++ (paint ⟨colored, verbose⟩ color text ++ behind))
      (beforePlain : escape ∉ Utf8.encode before) (textPlain : escape ∉ Utf8.encode text)
      (behindPlain : Quiet event → escape ∉ Utf8.encode behind) :
      Written verbose event (some color)

theorem tallyColor_eq (tally : Tally) :
    tallyColor tally = if tally.failed = 0 ∧ tally.timedOut = 0 then .green else .red := by
  simp [tallyColor, Tally.isClean]

theorem written_judged (verbose : Bool) (judgement : Judgement) :
    Written verbose (.judged judgement) (some (verdictColor judgement.verdict)) := by
  refine .painted _ "" (statusWord judgement.verdict) (" " ++ judgement.fixture.id ++
    (if verbose then details judgement else "") ++ "\n" ++ captured judgement) ?_ (by decide)
    (plain_of_printable (printable_statusWord _)) ?_
  · intro colored
    simp only [render, header, String.append_assoc, String.empty_append]
  · intro quiet
    have id := (quiet judgement rfl).1
    have more : escape ∉ Utf8.encode (if verbose then details judgement else "") := by
      split
      · exact plain_of_printable (lowercase_details judgement).printable
      · exact List.not_mem_nil
    simp only [Utf8.encode_append, List.mem_append, not_or]
    exact ⟨⟨⟨⟨by decide, id⟩, more⟩, by decide⟩, plain_captured quiet⟩

theorem written_completed (verbose : Bool) {summary : Summary}
    (attempted : summary.tally.total ≠ 0) :
    Written verbose (.completed summary) (some (tallyColor summary.tally)) := by
  refine .painted _ "\n" (closingLine summary) "\n" ?_ (by decide)
    (plain_of_printable (printable_closingLine summary)) (fun _ => by decide)
  intro colored
  simp only [render, if_neg attempted, String.append_assoc]

theorem written_event (verbose : Bool) (event : Event) : Written verbose event (ink event) := by
  cases event with
  | started count =>
    refine .plain (if count = 0 then "No fixtures collected\n" else "") (fun _ => rfl) ?_
    split <;> decide
  | judged judgement => exact written_judged verbose judgement
  | completed summary =>
    by_cases empty : summary.tally.total = 0
    · rw [ink, if_pos empty]
      exact .plain "" (fun _ => by rw [render, if_pos empty]) (by decide)
    · rw [ink, if_neg empty, ← apply_ite some, ← tallyColor_eq]
      exact written_completed verbose empty

theorem strip_render (colored verbose : Bool) (event : Event) :
    strip (Utf8.encode (render ⟨colored, verbose⟩ event)) =
      strip (Utf8.encode (render ⟨false, verbose⟩ event)) := by
  have written := written_event verbose event
  generalize ink event = hue at written
  cases written with
  | plain text same _ => rw [same, same]
  | painted color before text behind same beforePlain textPlain _ =>
    -- Either way the text is left, and behind it what is left of the rest.
    have left (shown : Bool) : strip (Utf8.encode (render ⟨shown, verbose⟩ event)) =
        Utf8.encode before ++ (Utf8.encode text ++ strip (Utf8.encode behind)) := by
      rw [same, Utf8.encode_append, Utf8.encode_append, strip_append_of_plain beforePlain,
        strip_paint _ _ textPlain]
    rw [left, left]

theorem plain_render (verbose : Bool) {event : Event} (quiet : Quiet event) :
    escape ∉ Utf8.encode (render ⟨false, verbose⟩ event) := by
  have written := written_event verbose event
  generalize ink event = hue at written
  cases written with
  | plain text same textPlain => rwa [same]
  | painted color before text behind same beforePlain textPlain behindPlain =>
    simp only [same, paint, Utf8.encode_append, List.mem_append, not_or]
    exact ⟨beforePlain, textPlain, behindPlain quiet⟩

/-! ## Counting sequences -/

section

variable {code : List UInt8} (member : code ∈ codes)

include member

theorem occurrences_append_of_plain {text : List UInt8} (plain : escape ∉ text)
    (rest : List UInt8) : occurrences code (text ++ rest) = occurrences code rest := by
  induction text with
  | nil => rfl
  | cons b text ih =>
    rw [List.mem_cons, not_or] at plain
    obtain ⟨tail, rfl, -, -⟩ := mem_codes member
    have other : (escape == b) = false := by simpa using plain.1
    rw [List.cons_append, occurrences, ih plain.2]
    simp [List.isPrefixOf, other]

theorem occurrences_code_append {other : List UInt8} (otherMember : other ∈ codes)
    (rest : List UInt8) :
    occurrences code (other ++ rest) =
      occurrences code rest + if other = code then 1 else 0 := by
  have here : code.isPrefixOf (other ++ rest) = decide (other = code) := by
    rw [Bool.eq_iff_iff, List.isPrefixOf_iff_prefix, decide_eq_true_eq]
    constructor
    · intro begins
      exact (eq_of_begins member otherMember begins).symm
    · rintro rfl
      exact List.prefix_append ..
  obtain ⟨tail, rfl, tailPlain, -⟩ := mem_codes otherMember
  rw [List.cons_append] at here ⊢
  rw [occurrences, occurrences_append_of_plain member tailPlain, here]
  simp

/-- How often a sequence is written for something in this colour. -/
def timesFor (code : List UInt8) : Option Color → Nat
  | none => 0
  | some color =>
    (if Utf8.encode color.opening = code then 1 else 0) +
      if Utf8.encode closing = code then 1 else 0

theorem occurrences_render (verbose : Bool) {event : Event} (quiet : Quiet event)
    (rest : List UInt8) :
    occurrences code (Utf8.encode (render ⟨true, verbose⟩ event) ++ rest) =
      occurrences code rest + timesFor code (ink event) := by
  have written := written_event verbose event
  generalize ink event = hue at written ⊢
  cases written with
  | plain text same textPlain =>
    rw [same, occurrences_append_of_plain member textPlain]
    rfl
  | painted color before text behind same beforePlain textPlain behindPlain =>
    simp only [same, paint, if_true, Utf8.encode_append, List.append_assoc]
    rw [occurrences_append_of_plain member beforePlain,
      occurrences_code_append member (opening_mem_codes color),
      occurrences_append_of_plain member textPlain,
      occurrences_code_append member closing_mem_codes,
      occurrences_append_of_plain member (behindPlain quiet), timesFor]
    omega

theorem occurrences_written (verbose : Bool) {events : List Event}
    (quiet : ∀ event ∈ events, Quiet event) {paints : Event → Bool}
    (times : ∀ event, timesFor code (ink event) = if paints event then 1 else 0) :
    occurrences code ((Style.console ⟨true, verbose⟩).written events) = events.countP paints := by
  induction events with
  | nil => rfl
  | cons event events ih =>
    have others := ih fun other later => quiet other (List.mem_cons_of_mem _ later)
    have here := occurrences_render member verbose (quiet event (List.mem_cons_self ..))
      ((Style.console ⟨true, verbose⟩).written events)
    rw [List.countP_cons, ← others, ← times]
    exact here

end

theorem timesFor_opening (color : Color) (hue : Option Color) :
    timesFor (Utf8.encode color.opening) hue = if hue = some color then 1 else 0 := by
  cases hue with
  | none => rfl
  | some other => cases color <;> cases other <;> decide

theorem timesFor_closing (hue : Option Color) :
    timesFor (Utf8.encode closing) hue = if hue.isSome then 1 else 0 := by
  cases hue with
  | none => rfl
  | some color => cases color <;> decide

/-! ## Reports -/

theorem strip_written (console : Console) (events : List Event) :
    strip ((Style.console console).written events) =
      events.flatMap fun event => strip (Utf8.encode (console.render event)) := by
  induction events with
  | nil => rw [Style.written_nil, strip, List.flatMap_nil]
  | cons event events ih =>
    rw [List.flatMap_cons, ← ih]
    exact (lined_render console event).strip_append _

theorem plain_written (verbose : Bool) {events : List Event}
    (quiet : ∀ event ∈ events, Quiet event) :
    escape ∉ (Style.console ⟨false, verbose⟩).written events := by
  rw [Style.written, List.mem_flatMap]
  rintro ⟨event, told, found⟩
  exact plain_render verbose (quiet event told) found

/-- A coloured report differs from the plain one in its escape sequences only.  Without them both
    are the same, whatever identifiers and captured output contain.  If these are free of escape
    characters, what is left is the plain report itself, and for every fixture and every summary
    that counts anything one colour is switched on and off once: green for a summary without
    failures and timeouts, else red. -/
theorem colored_strips_to_plain (verbose : Bool) (events : List Event) :
    let report (colored : Bool) := Transcript.ofEvents (.console ⟨colored, verbose⟩) {} events
    let colored := (report true).sink.taken
    let plain := (report false).sink.taken
    strip colored = strip plain ∧
    ((∀ event ∈ events, Quiet event) →
      strip colored = plain ∧
      (∀ color, occurrences (Utf8.encode color.opening) colored =
        events.countP fun event => ink event = some color) ∧
      occurrences (Utf8.encode closing) colored = events.countP (fun event => (ink event).isSome) ∧
      (report true).deliveries.map Delivery.event = events ∧
      ∀ delivery ∈ (report true).deliveries,
        (∀ color, occurrences (Utf8.encode color.opening) delivery.written =
          if ink delivery.event = some color then 1 else 0) ∧
        occurrences (Utf8.encode closing) delivery.written =
          if (ink delivery.event).isSome then 1 else 0) := by
  intro report colored plain
  have taken (shown : Bool) : (report shown).sink.taken =
      (Style.console ⟨shown, verbose⟩).written events :=
    (Transcript.ofEvents_sound _ events).2.1
  have stripped : strip colored = strip plain := by
    simp only [colored, plain, taken, strip_written]
    exact List.flatMap_congr fun event _ => strip_render true verbose event
  refine ⟨stripped, fun quiet => ⟨?_, ?_, ?_, ?_, ?_⟩⟩
  · rw [stripped]
    apply strip_of_plain
    simp only [plain, taken]
    exact plain_written verbose quiet
  · intro color
    simp only [colored, taken]
    exact occurrences_written (opening_mem_codes color) verbose quiet fun event => by
      rw [timesFor_opening]
      simp
  · simp only [colored, taken]
    exact occurrences_written closing_mem_codes verbose quiet fun event => timesFor_closing _
  · rw [(Transcript.ofEvents_sound _ events).2.2, List.map_map]
    exact List.map_id _
  · intro delivery made
    rw [(Transcript.ofEvents_sound _ events).2.2] at made
    obtain ⟨event, told, rfl⟩ := List.mem_map.mp made
    have once {code : List UInt8} (member : code ∈ codes) :
        occurrences code (Utf8.encode (render ⟨true, verbose⟩ event)) =
          timesFor code (ink event) := by
      have alone := occurrences_render member verbose (quiet event told) []
      rwa [List.append_nil, occurrences, Nat.zero_add] at alone
    refine ⟨fun color => ?_, ?_⟩
    · exact (once (opening_mem_codes color)).trans (timesFor_opening color _)
    · exact (once closing_mem_codes).trans (timesFor_closing _)

/-- A failure whose output looks like a sequence without its escape character. -/
def unescaped : List Event :=
  [.started 2,
    .judged ⟨⟨"[0m"⟩, .accepted, .failed, { exitCode := some 1, stdout := Utf8.encode "[1;32m" }⟩,
    .completed ⟨⟨0, 1, 0⟩, 2, true, .zero⟩]

theorem unescaped_strips_to_plain :
    (∀ event ∈ unescaped, Quiet event) ∧
    let colored := (Transcript.ofEvents (.console ⟨true, false⟩) {} unescaped).sink.taken
    strip colored = Utf8.encode
      "Failed: [0m\n\t[1;32m\n\n0 passed, 1 failed in 0.00s (stopped after first failure)\n" ∧
    occurrences (Utf8.encode Color.red.opening) colored = 2 := by
  have quiet : ∀ event ∈ unescaped, Quiet event := by
    intro event told judgement same
    subst same
    simp only [unescaped, List.mem_cons, List.not_mem_nil, or_false, Event.judged.injEq,
      reduceCtorEq, false_or] at told
    subst told
    decide
  obtain ⟨-, counts⟩ := colored_strips_to_plain false unescaped
  obtain ⟨stripped, openings, -⟩ := counts quiet
  refine ⟨quiet, stripped.trans (by decide +kernel), (openings .red).trans (by decide)⟩

end Console

end Conformance
