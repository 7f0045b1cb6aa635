import Conformance.Proofs.Report.Captured
import Conformance.Proofs.Text.Lossy

/-! # What stands beneath the line of a fixture

A console report shows everything that a subject wrote before it failed.  Each line of the
captured text gets a tab in front, and apart from the tabs the text is changed in two places
only: line endings lose their carriage return, and the last line gets the line feed that it may
lack.

`Text.lines` forgets the endings.  What it keeps is said by giving every line a line feed again
and comparing with the text (`flatMap_lines`).
-/

namespace Conformance

namespace Text

/-- A text without the carriage returns that stand directly before a line feed. -/
def withoutReturns : List Char → List Char
  | [] => []
  | c :: rest =>
    if c = '\r' ∧ rest.head? = some '\n' then withoutReturns rest else c :: withoutReturns rest

/-- A text whose last line is closed by a line feed, if it has a line at all. -/
def closed (text : List Char) : List Char :=
  if text = [] ∨ text.getLast? = some '\n' then text else text ++ ['\n']

theorem withoutReturns_append {line rest : List Char} (unbroken : '\n' ∉ line)
    (apart : rest.head? = some '\n' → line.getLast? ≠ some '\r') :
    withoutReturns (line ++ rest) = line ++ withoutReturns rest := by
  induction line with
  | nil => rfl
  | cons c line ih =>
    rw [List.mem_cons, not_or] at unbroken
    -- A return at the end of the line would be `c` only if nothing of the line follows it.
    have kept : ¬ (c = '\r' ∧ (line ++ rest).head? = some '\n') := by
      rintro ⟨rfl, broken⟩
      cases line with
      | nil => exact apart broken rfl
      | cons d line =>
        rw [List.cons_append, List.head?_cons, Option.some.injEq] at broken
        exact unbroken.2 (broken ▸ List.mem_cons_self ..)
    have later : rest.head? = some '\n' → line.getLast? ≠ some '\r' := by
      intro broken last
      refine apart broken ?_
      rw [List.getLast?_cons, last]
      rfl
    rw [List.cons_append, withoutReturns, if_neg kept, ih unbroken.2 later, List.cons_append]

theorem withoutReturns_of_unbroken {line : List Char} (unbroken : '\n' ∉ line) :
    withoutReturns line = line := by
  have alone := @withoutReturns_append line [] unbroken (by simp)
  rwa [List.append_nil, withoutReturns, List.append_nil] at alone

theorem withoutReturns_eq_nil {text : List Char} (empty : withoutReturns text = []) :
    text = [] := by
  induction text with
  | nil => rfl
  | cons c rest ih =>
    rw [withoutReturns] at empty
    split at empty
    next deleted =>
      -- The line feed behind a deleted return is still there.
      rw [ih empty] at deleted
      cases deleted.2
    next => cases empty

theorem closed_append (line rest : List Char) :
    closed (line ++ '\n' :: rest) = line ++ '\n' :: closed rest := by
  cases rest with
  | nil => simp [closed]
  | cons c rest =>
    by_cases last : (c :: rest).getLast? = some '\n' <;>
      simp [closed, List.getLast?_append, List.getLast?_cons_cons, last]

theorem closed_of_open {text : List Char} (nonempty : text ≠ [])
    (isOpen : text.getLast? ≠ some '\n') : closed text = text ++ ['\n'] :=
  if_neg (not_or.mpr ⟨nonempty, isOpen⟩)

namespace Cut

theorem close_eq (cut : Cut) :
    ∃ line, cut.close = ⟨line :: cut.finished, []⟩ ∧
      (cut.opened.reverse = line ++ ['\r'] ∨
        cut.opened.reverse = line ∧ line.getLast? ≠ some '\r') := by
  unfold close
  split
  next line shape => exact ⟨line.reverse, rfl, .inl (by rw [shape, List.reverse_cons])⟩
  next line other =>
    refine ⟨cut.opened.reverse, rfl, .inr ⟨rfl, ?_⟩⟩
    intro last
    rw [List.getLast?_reverse] at last
    obtain ⟨rest, shape⟩ := List.head?_eq_some_iff.mp last
    exact other rest shape

theorem flatMap_finish {cut : Cut} (unbroken : '\n' ∉ cut.opened) (text : List Char) :
    (text.foldl step cut).finish.flatMap (· ++ ['\n']) =
      cut.finished.reverse.flatMap (· ++ ['\n']) ++
        closed (withoutReturns (cut.opened.reverse ++ text)) := by
  induction text generalizing cut with
  | nil =>
    have same : withoutReturns cut.opened.reverse = cut.opened.reverse :=
      withoutReturns_of_unbroken (by simpa using unbroken)
    rw [List.foldl_nil, List.append_nil, same]
    unfold finish
    split
    next empty => simp [empty, closed]
    next opened =>
      have isOpen : cut.opened.reverse.getLast? ≠ some '\n' := fun last =>
        unbroken (List.mem_reverse.mp (List.mem_of_getLast? last))
      rw [closed_of_open (by simpa using opened) isOpen]
      simp
  | cons c text ih =>
    by_cases isLineFeed : c = '\n'
    · -- The open line is closed, without the return at its end if it has one.
      subst isLineFeed
      obtain ⟨line, closes, shape⟩ := cut.close_eq
      have steps : cut.step '\n' = ⟨line :: cut.finished, []⟩ := closes
      have unbrokenLine : '\n' ∉ line := by
        have whole : '\n' ∉ cut.opened.reverse := by simpa using unbroken
        rcases shape with shape | ⟨shape, -⟩
        · rw [shape, List.mem_append, not_or] at whole
          exact whole.1
        · rwa [shape] at whole
      have trimmed : withoutReturns (cut.opened.reverse ++ '\n' :: text) =
          line ++ '\n' :: withoutReturns text := by
        have ends : withoutReturns ('\n' :: text) = '\n' :: withoutReturns text := by
          rw [withoutReturns, if_neg (by simp)]
        rcases shape with shape | ⟨shape, noReturn⟩
        · have dropped : withoutReturns ('\r' :: '\n' :: text) = '\n' :: withoutReturns text := by
            rw [withoutReturns, if_pos ⟨rfl, rfl⟩, ends]
          rw [shape, List.append_assoc, List.singleton_append,
            withoutReturns_append unbrokenLine (by simp), dropped]
        · rw [shape, withoutReturns_append unbrokenLine (fun _ => noReturn), ends]
      rw [List.foldl_cons, steps, ih (by simp), trimmed, closed_append]
      simp
    · have steps : cut.step c = ⟨cut.finished, c :: cut.opened⟩ := if_neg isLineFeed
      have still : '\n' ∉ c :: cut.opened := by simpa using ⟨Ne.symm isLineFeed, unbroken⟩
      rw [List.foldl_cons, steps, ih still]
      simp

end Cut

/-- The lines of a text, each with a line feed, are the text again, apart from the endings. -/
theorem flatMap_lines (text : List Char) :
    (lines text).flatMap (· ++ ['\n']) = closed (withoutReturns text) := by
  have whole := @Cut.flatMap_finish {} (by simp) text
  simpa [lines] using whole

theorem lines_eq_nil {text : List Char} (empty : lines text = []) : text = [] := by
  have joined := flatMap_lines text
  rw [empty, List.flatMap_nil, closed] at joined
  apply withoutReturns_eq_nil
  split at joined
  · exact joined.symm
  · simp at joined

theorem lines_concat_return (front : List Char) :
    ∃ before line, lines (front ++ ['\r']) = before ++ [line ++ ['\r']] := by
  simp [lines, Cut.step, Cut.finish]

end Text

namespace Console

open Text (tab lineFeed closed withoutReturns)

/-- Captured bytes as they are shown beneath the line of a fixture. -/
def shownBlock (bytes : List UInt8) : List UInt8 := Utf8.encode (block (Utf8.decodeLossy bytes))

/-- Captured bytes are shown whole: every row begins with a tab, and without the tabs the rows
    are the text of the bytes, up to the line endings. -/
structure Indents (bytes shown : List UInt8) : Prop where
  rows : ∃ lines : List (List UInt8),
    (∀ line ∈ lines, lineFeed ∉ line) ∧
    shown = lines.flatMap (fun line => tab :: (line ++ [lineFeed])) ∧
    lines.flatMap (· ++ [lineFeed]) =
      Utf8.encode (String.ofList (closed (withoutReturns (Utf8.decodeLossy bytes).toList)))
  empty : shown = [] ↔ bytes = []
  /-- A carriage return at the end of the text ends no line, and is shown. -/
  lastReturn : (Utf8.decodeLossy bytes).toList.getLast? = some '\r' →
    ∃ front, shown = front ++ [0x0D, lineFeed]

/-- The lines of a text in bytes. -/
def encodedLines (text : List Char) : List (List UInt8) :=
  (Text.lines text).map fun line => Utf8.encode (String.ofList line)

theorem encode_block (text : String) :
    Utf8.encode (block text) =
      (encodedLines text.toList).flatMap fun line => tab :: (line ++ [lineFeed]) := by
  rw [block, encodedLines]
  induction Text.lines text.toList with
  | nil => rfl
  | cons line rest ih =>
    rw [List.flatMap_cons, String.ofList_append, Utf8.encode_append, ih, encode_indented]
    rfl

theorem flatMap_encodedLines (text : List Char) :
    (encodedLines text).flatMap (· ++ [lineFeed]) =
      Utf8.encode (String.ofList (closed (withoutReturns text))) := by
  rw [← Text.flatMap_lines, encodedLines]
  induction Text.lines text with
  | nil => rfl
  | cons line rest ih =>
    rw [List.map_cons, List.flatMap_cons, ih, List.flatMap_cons, String.ofList_append,
      Utf8.encode_append, String.ofList_append, Utf8.encode_append]
    rfl

-- Of two carriage returns one is part of the ending, and one without a line feed stays.
example : block "a\r\r\n\nb\r" = "\ta\r\n\t\n\tb\r\n" := by decide

theorem lineFeed_not_mem_encodedLines {text : List Char} :
    ∀ line ∈ encodedLines text, lineFeed ∉ line := by
  intro line member
  obtain ⟨chars, found, rfl⟩ := List.mem_map.mp member
  rw [Text.lineFeed_mem_encode, String.toList_ofList]
  exact Text.lineFeed_not_mem_lines found

theorem indents_shownBlock (bytes : List UInt8) : Indents bytes (shownBlock bytes) := by
  have shown := encode_block (Utf8.decodeLossy bytes)
  refine ⟨⟨_, lineFeed_not_mem_encodedLines, shown, flatMap_encodedLines _⟩, ?_, ?_⟩
  · constructor
    · intro empty
      by_contra nonempty
      -- Some byte was captured, so some character is shown, and so there is a line.
      apply Utf8.decodeLossy_ne_empty nonempty
      rw [shownBlock, shown] at empty
      have noLine : Text.lines (Utf8.decodeLossy bytes).toList = [] := by
        cases split : Text.lines (Utf8.decodeLossy bytes).toList with
        | nil => rfl
        | cons line rest => simp [encodedLines, split] at empty
      simpa using Text.lines_eq_nil noLine
    · rintro rfl
      rfl
  · intro last
    obtain ⟨front, text⟩ := List.getLast?_eq_some_iff.mp last
    obtain ⟨before, line, split⟩ := Text.lines_concat_return front
    refine ⟨(before.map fun chars => Utf8.encode (String.ofList chars)).flatMap
      (fun row => tab :: (row ++ [lineFeed])) ++ tab :: Utf8.encode (String.ofList line), ?_⟩
    rw [shownBlock, shown, encodedLines, text, split]
    simp only [List.map_append, List.map_singleton, List.flatMap_append, List.flatMap_singleton,
      String.ofList_append, Utf8.encode_append, List.append_assoc, List.cons_append]
    rfl

/-- A success is one line.  Beneath any other verdict stands what the subject wrote, whole and
    indented, standard output first, or a note that it wrote nothing. -/
theorem judged_beneath_header (console : Console) (judgement : Judgement) :
    let call := (Style.console console).reporter.notify {} (.judged judgement)
    let stdout := judgement.invocation.stdout
    let stderr := judgement.invocation.stderr
    ∃ line beneath,
      console.header judgement = line ++ "\n" ∧
      call.2 = none ∧
      call.1.taken = Utf8.encode line ++ lineFeed :: beneath ∧
      (judgement.verdict.isSuccess = true → beneath = []) ∧
      (judgement.verdict.isSuccess = false →
        (stdout = [] ∧ stderr = [] → beneath = Utf8.encode "\t(no output)\n") ∧
        (¬ (stdout = [] ∧ stderr = []) →
          beneath = shownBlock stdout ++ shownBlock stderr ∧
            Indents stdout (shownBlock stdout) ∧ Indents stderr (shownBlock stderr))) := by
  intro call stdout stderr
  obtain ⟨succeeds, taken⟩ :=
    @Style.notify_of_sound (.console console) {} ⟨rfl, rfl⟩ (.judged judgement)
  refine ⟨_, Utf8.encode (captured judgement), rfl, succeeds, ?_, ?_, ?_⟩
  · rw [taken]
    show Utf8.encode (console.header judgement ++ captured judgement) = _
    rw [Utf8.encode_append, header, Utf8.encode_append, List.append_assoc]
    rfl
  · intro success
    simp [captured, success, Utf8.encode]
  · intro failure
    refine ⟨?_, ?_⟩
    · intro empty
      rw [captured, if_neg (by simp [failure]), if_pos]
      simpa using empty
    · intro nonempty
      refine ⟨?_, indents_shownBlock _, indents_shownBlock _⟩
      rw [captured, if_neg (by simp [failure]), if_neg, Utf8.encode_append]
      · rfl
      · simpa using nonempty

end Console

end Conformance
