import Conformance.Proofs.Fixture
import Conformance.Proofs.Verdict

/-! # Markers and keywords

A marker says what is expected of a fixture and a keyword whether it is selected, and both are
looked for in the same place: the name.  What is said here is where that is in the identifier
(`marked_iff_within`), so nothing else of an identifier matters, and a keyword selects the
fixtures that the same word would mark (`word_within_name`).
-/

namespace Conformance

namespace Convention

open Fixture (Closed Component Parts Separators)

/-- A word stands in an identifier as a marker has to: inside of one component, behind which
    there are separators only.  The component is empty only if the identifier has none. -/
structure Within (word id : String) (dir before after trail : String) : Prop where
  whole : id = dir ++ before ++ word ++ after ++ trail
  trailing : Separators trail.toList
  unseparated : '/' ∉ (before ++ word ++ after).toList
  present : before ++ word ++ after = "" → Separators id.toList
  closed : Closed dir.toList

theorem within_of_infix {marker : String} {fixture : Fixture}
    (inside : marker.toList <:+: fixture.name.toList) :
    ∃ dir before after trail, Within marker fixture.id dir before after trail := by
  obtain ⟨before, after, shape⟩ := inside
  have splits := Fixture.splits_of fixture.id
  have name : String.ofList before ++ marker ++ String.ofList after = fixture.name := by
    apply String.toList_injective
    simpa using shape
  refine ⟨(Parts.of fixture.id).dir, String.ofList before, String.ofList after,
    (Parts.of fixture.id).trail, ?_, splits.trailing, ?_, ?_, splits.closed⟩
  · have whole := splits.whole
    rw [Fixture.name_of, ← name] at whole
    simpa only [String.append_assoc] using whole
  · rw [name]
    exact splits.unseparated
  · intro missing
    exact (splits.nameless (name.symm.trans missing)).1

theorem infix_of_within {marker : String} {fixture : Fixture} {dir before after trail : String}
    (within : Within marker fixture.id dir before after trail) :
    marker.toList <:+: fixture.name.toList := by
  by_cases missing : before ++ marker ++ after = ""
  · -- Only the empty word stands in nothing, and it stands everywhere.
    have none : marker.toList = [] := by
      have chars := congrArg String.toList missing
      simp only [String.toList_append, String.toList_empty, List.append_eq_nil_iff] at chars
      exact chars.1.2
    rw [none]
    exact List.nil_infix
  · have component : Component (before ++ marker ++ after).toList :=
      ⟨by simpa using missing, within.unseparated⟩
    have splits := component.splits within.closed within.trailing
    have same : dir ++ (before ++ marker ++ after) ++ trail = fixture.id := by
      rw [within.whole]
      simp only [String.append_assoc]
    rw [same] at splits
    rw [← splits.name_eq]
    exact ⟨before.toList, after.toList, by simp⟩

theorem marked_iff_within {marker : String} {fixture : Fixture} :
    Convention.marked marker fixture = .rejected ↔
      ∃ dir before after trail, Within marker fixture.id dir before after trail := by
  rw [marked_eq_rejected]
  constructor
  · exact within_of_infix
  · rintro ⟨dir, before, after, trail, within⟩
    exact infix_of_within within

theorem marked_eq_of_name {first second : Fixture} (same : first.name = second.name)
    (marker : String) : Convention.marked marker first = Convention.marked marker second := by
  rw [marked, marked, Fixture.isSelectedBy, Fixture.isSelectedBy, same]

theorem isSelectedBy_eq (keyword : String) (fixture : Fixture) :
    Fixture.isSelectedBy keyword fixture =
      decide (Convention.marked keyword fixture = .rejected) := by
  cases selected : Fixture.isSelectedBy keyword fixture <;> simp [marked, selected]

theorem select_eq (keyword : String) (fixtures : List Fixture) :
    Fixture.select (some keyword) fixtures =
      fixtures.filter fun fixture => Convention.marked keyword fixture = .rejected := by
  rw [Fixture.select]
  exact List.filter_congr fun fixture _ => isSelectedBy_eq keyword fixture

/-- A word marks a fixture if and only if it stands in the last component of the identifier.  So a
    word with a separator marks nothing, the empty word marks everything, and neither the
    directory nor the separators that trail make a difference.  A keyword selects, in order, the
    fixtures that it would mark; two keywords select alike in either order, and twice the same is
    once. -/
theorem word_within_name (word : String) :
    (∀ fixture : Fixture, Convention.marked word fixture = .rejected ↔
      ∃ dir before after trail, Within word fixture.id dir before after trail) ∧
    ('/' ∈ word.toList → ∀ fixture, Convention.marked word fixture = .accepted) ∧
    (∀ fixture, Convention.marked "" fixture = .rejected) ∧
    (∀ dir otherDir name trail otherTrail : String, Component name.toList →
      Closed dir.toList → Closed otherDir.toList →
      Separators trail.toList → Separators otherTrail.toList →
      Convention.marked word ⟨dir ++ name ++ trail⟩ =
        Convention.marked word ⟨otherDir ++ name ++ otherTrail⟩) ∧
    (∀ fixtures, Fixture.select (some word) fixtures =
      fixtures.filter fun fixture => Convention.marked word fixture = .rejected) ∧
    (∀ other fixtures, Fixture.select (some word) (Fixture.select (some other) fixtures) =
      Fixture.select (some other) (Fixture.select (some word) fixtures)) ∧
    ∀ fixtures, Fixture.select (some word) (Fixture.select (some word) fixtures) =
      Fixture.select (some word) fixtures := by
  refine ⟨fun _ => marked_iff_within, ?_, ?_, ?_, select_eq word, ?_, ?_⟩
  · intro separated fixture
    cases expected : Convention.marked word fixture with
    | accepted => rfl
    | rejected =>
      obtain ⟨dir, before, after, trail, within⟩ := marked_iff_within.mp expected
      refine absurd ?_ within.unseparated
      simp [separated]
  · intro fixture
    exact marked_eq_rejected.mpr List.nil_infix
  · intro dir otherDir name trail otherTrail component closed otherClosed trailing otherTrailing
    apply marked_eq_of_name
    have here := component.splits closed trailing
    have there := component.splits otherClosed otherTrailing
    exact here.name_eq.symm.trans there.name_eq
  · intro other fixtures
    simp only [select_eq, List.filter_filter, Bool.and_comm]
  · intro fixtures
    simp only [select_eq, List.filter_filter, Bool.and_self]

theorem failDirectory_unmarked :
    Convention.marked "fail" ⟨"failures/" ++ "ok" ++ "/"⟩ = .accepted ∧
    Convention.marked "s/o" ⟨"failures/ok"⟩ = .accepted ∧
    Convention.marked "fail" ⟨"a//must_fail//"⟩ = .rejected ∧
    Fixture.select (some "fail") [⟨"a//must_fail//"⟩, ⟨"failures/ok"⟩] = [⟨"a//must_fail//"⟩] := by
  obtain ⟨iff, -, -, alike, selected, -, -⟩ := word_within_name "fail"
  have unseparated := (word_within_name "s/o").2.1 (by decide)
  have unmarked : Convention.marked "fail" ⟨"failures/" ++ "ok" ++ "/"⟩ = .accepted :=
    (alike "failures/" "" "ok" "/" "" ⟨by decide, by decide⟩ (.inr (by decide)) (.inl rfl)
      (by decide) (by decide)).trans (by decide)
  have within : Within "fail" "a//must_fail//" "a//" "must_" "" "//" :=
    ⟨rfl, by decide, by decide, fun missing => absurd missing (by decide), .inr (by decide)⟩
  refine ⟨unmarked, unseparated _, (iff ⟨"a//must_fail//"⟩).mpr ⟨_, _, _, _, within⟩, ?_⟩
  rw [selected]
  decide

end Convention

end Conformance
