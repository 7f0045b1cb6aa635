import Conformance.Proofs.Report.JsonLines

/-! # What captured output can change in a report

The subject decides what is captured, so a report must not let it speak for the harness.  To
silence an event is to forget what was captured.  In a console report an event and the
silenced one differ in rows that begin with a tab only; in a machine readable one, in the
members that hold the captured texts.
-/

namespace Conformance

def Invocation.silenced (invocation : Invocation) : Invocation :=
  { invocation with stdout := [], stderr := [] }

def Judgement.silenced (judgement : Judgement) : Judgement :=
  { judgement with invocation := judgement.invocation.silenced }

def Event.silenced : Event → Event
  | .judged judgement => .judged judgement.silenced
  | event => event

/-! ## Rows that begin with a tab -/

namespace Text

def tab : UInt8 := 0x09

/-- The rows that do not begin with a tab. -/
def unindented (bytes : List UInt8) : List (List UInt8) :=
  (rows bytes).filter fun row => row.head? != some tab

/-- Whatever follows these bytes, they contribute these rows to what is not indented. -/
def Shows (bytes : List UInt8) (shown : List (List UInt8)) : Prop :=
  ∀ rest, unindented (bytes ++ rest) = shown ++ unindented rest

theorem shows_nil : Shows [] [] := fun _ => rfl

theorem Shows.append {first second : List UInt8} {shown more : List (List UInt8)}
    (before : Shows first shown) (after : Shows second more) :
    Shows (first ++ second) (shown ++ more) := by
  intro rest
  rw [List.append_assoc, before, after, List.append_assoc]

theorem shows_closed (bytes : List UInt8) :
    Shows (bytes ++ [lineFeed]) (unindented bytes) := by
  intro rest
  rw [unindented, List.append_assoc, List.singleton_append, rows_append, List.filter_append]
  rfl

theorem shows_indented {line : List UInt8} (unbroken : lineFeed ∉ line) :
    Shows (tab :: (line ++ [lineFeed])) [] := by
  intro rest
  have unbrokenRow : lineFeed ∉ tab :: line := by
    rw [List.mem_cons, not_or]
    exact ⟨by decide, unbroken⟩
  have split : tab :: (line ++ [lineFeed]) ++ rest = (tab :: line) ++ lineFeed :: rest := by simp
  rw [unindented, split, rows_cons unbrokenRow, List.filter_cons_of_neg (by simp)]
  rfl

end Text

/-! ## Console reports -/

namespace Console

open Text (Shows tab lineFeed unindented)

theorem encode_indented (line : List Char) :
    Utf8.encode (String.ofList ('\t' :: line ++ ['\n'])) =
      tab :: (Utf8.encode (String.ofList line) ++ [lineFeed]) := by
  rw [Utf8.encode_ofList, Utf8.encode_ofList, List.cons_append, List.flatMap_cons,
    List.flatMap_append]
  rfl

theorem shows_block (text : String) : Shows (Utf8.encode (block text)) [] := by
  have unbroken : ∀ line ∈ Text.lines text.toList, '\n' ∉ line := fun _ =>
    Text.lineFeed_not_mem_lines
  rw [block]
  -- By induction on the lines: each is a row of its own, and the row begins with a tab.
  generalize Text.lines text.toList = lines at unbroken
  induction lines with
  | nil => exact Text.shows_nil
  | cons line rest ih =>
    have first : lineFeed ∉ Utf8.encode (String.ofList line) := by
      rw [Text.lineFeed_mem_encode, String.toList_ofList]
      exact unbroken line (List.mem_cons_self ..)
    have others := ih fun line member => unbroken line (List.mem_cons_of_mem _ member)
    rw [List.flatMap_cons, String.ofList_append, Utf8.encode_append, encode_indented]
    exact (Text.shows_indented first).append others

theorem shows_captured (judgement : Judgement) : Shows (Utf8.encode (captured judgement)) [] := by
  unfold captured
  split
  · exact Text.shows_nil
  · split
    · -- The note that there is no output is a line like those of the output.
      have note : "\t(no output)\n" = block "(no output)" := by decide
      rw [note]
      exact shows_block _
    · rw [Utf8.encode_append]
      exact (shows_block _).append (shows_block _)

theorem shows_line (text : String) :
    Shows (Utf8.encode (text ++ "\n")) (unindented (Utf8.encode text)) := by
  rw [Utf8.encode_append]
  exact Text.shows_closed _

/-- Silencing an event leaves what is not indented as it is. -/
theorem shows_render (console : Console) (event : Event) :
    ∃ shown, Shows (Utf8.encode (console.render event)) shown ∧
      Shows (Utf8.encode (console.render event.silenced)) shown := by
  cases event with
  | started count =>
    simp only [Event.silenced, and_self, render]
    split
    · exact ⟨_, shows_line "No fixtures collected"⟩
    · exact ⟨[], Text.shows_nil⟩
  | judged judgement =>
    -- Both have the same header, and what is beneath it is indented in either case.
    obtain ⟨shown, above⟩ : ∃ shown, Shows (Utf8.encode (console.header judgement)) shown :=
      ⟨_, shows_line _⟩
    have whole (other : Judgement) (same : console.header other = console.header judgement) :
        Shows (Utf8.encode (console.render (.judged other))) (shown ++ []) := by
      rw [render, Utf8.encode_append, same]
      exact above.append (shows_captured other)
    exact ⟨_, whole judgement rfl, whole judgement.silenced rfl⟩
  | completed summary =>
    simp only [Event.silenced, and_self, render]
    split
    · exact ⟨[], Text.shows_nil⟩
    · exact ⟨_, shows_line _⟩

theorem shows_written (console : Console) (events : List Event) :
    ∃ shown, Shows ((Style.console console).written events) shown ∧
      Shows ((Style.console console).written (events.map Event.silenced)) shown := by
  induction events with
  | nil => exact ⟨[], Text.shows_nil, Text.shows_nil⟩
  | cons event events ih =>
    obtain ⟨shown, told, silenced⟩ := console.shows_render event
    obtain ⟨more, toldMore, silencedMore⟩ := ih
    exact ⟨shown ++ more, told.append toldMore, silenced.append silencedMore⟩

theorem unindented_written (console : Console) (events : List Event) :
    unindented ((Style.console console).written events) =
      unindented ((Style.console console).written (events.map Event.silenced)) := by
  obtain ⟨shown, told, silenced⟩ := console.shows_written events
  have first := told []
  have second := silenced []
  rw [List.append_nil] at first second
  rw [first, second]

end Console

/-! ## Machine readable reports -/

namespace JsonLines

/-- A record without the members that hold captured texts. -/
def uncaptured (record : Json.Record) : Json.Record :=
  record.filter fun entry => entry.1 != "stdout" && entry.1 != "stderr"

theorem uncaptured_record (event : Event) :
    uncaptured (record event) = uncaptured (record event.silenced) := by
  cases event with
  | started count => rfl
  | completed summary => rfl
  | judged judgement =>
    cases success : judgement.verdict.isSuccess with
    | true =>
      have same : fixtureRecord judgement.silenced = fixtureRecord judgement := by
        simp [fixtureRecord, Judgement.silenced, Invocation.silenced, success]
      show uncaptured (fixtureRecord _) = uncaptured (fixtureRecord _)
      rw [same]
    | false =>
      simp [record, Event.silenced, fixtureRecord, Judgement.silenced, Invocation.silenced, success,
        uncaptured]

end JsonLines

/-! ## Either -/

namespace Style

/-- Two reports that agree apart from the captured output.  Without the rows that begin with a
    tab, or without the members that hold captured texts, they are the same. -/
def AgreeApartFromCaptured : Style → List UInt8 → List UInt8 → Prop
  | .console _, first, second => Text.unindented first = Text.unindented second
  | .jsonLines, first, second =>
    ∃ records others, JsonLines.read? first = some records ∧ JsonLines.read? second = some others ∧
      records.map JsonLines.uncaptured = others.map JsonLines.uncaptured

theorem written_agree (style : Style) {events others : List Event}
    (same : events.map Event.silenced = others.map Event.silenced) :
    style.AgreeApartFromCaptured (style.written events) (style.written others) := by
  cases style with
  | console look =>
    show Text.unindented _ = Text.unindented _
    rw [look.unindented_written, same, ← look.unindented_written]
  | jsonLines =>
    have forgets (told : List Event) :
        (told.map JsonLines.record).map JsonLines.uncaptured =
          (told.map Event.silenced).map fun event =>
            JsonLines.uncaptured (JsonLines.record event) := by
      rw [List.map_map, List.map_map]
      exact List.map_congr_left fun event _ => JsonLines.uncaptured_record event
    refine ⟨_, _, JsonLines.read?_written events, JsonLines.read?_written others, ?_⟩
    rw [forgets, forgets, same]

end Style

end Conformance
