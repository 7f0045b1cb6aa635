import Conformance.Listing

/-! # What choices make of settings

Each choice sets one field and leaves the others alone, so a field ends up as the last choice
made for it, or as the default if there was none.  The fixtures that settings ask for, and
what is expected of them, rest on four fields; commands that choose the same for these four
work on the same fixtures, whatever else they choose.
-/

namespace Conformance

/-! ## Last choices -/

namespace Setting

/-- What this choice makes of the fixture directory, if it is about that. -/
def fixtureDir? : Setting → Option Path
  | .fixtureDir dir => some dir
  | _ => none

/-- What this choice makes of the keyword, if it is about that. -/
def keyword? : Setting → Option (Option String)
  | .keyword word => some (some word)
  | _ => none

/-- What this choice makes of the marker, if it is about that. -/
def marker? : Setting → Option String
  | .marker word => some word
  | _ => none

/-- What this choice makes of the tolerance, if it is about that. -/
def tolerance? : Setting → Option Tolerance
  | .tolerance chosen => some chosen
  | _ => none

end Setting

namespace Settings

section LastChoice

variable {α : Type} {field : Settings → α} {read : Setting → Option α}

/-- The last choice of the kind that `read` tells. -/
def lastChoice (read : Setting → Option α) (choices : List Setting) : Option α :=
  choices.reverse.findSome? read

/-- The choices that `read` tells are those that set the field. -/
def Sets (read : Setting → Option α) (field : Settings → α) : Prop :=
  ∀ settings choice, field (choose settings choice) = (read choice).getD (field settings)

theorem foldl_choose (sets : Sets read field) (choices : List Setting) (settings : Settings) :
    field (choices.foldl choose settings) = (lastChoice read choices).getD (field settings) := by
  induction choices generalizing settings with
  | nil => rfl
  | cons choice choices ih =>
    rw [List.foldl_cons, ih, sets, lastChoice, lastChoice, List.reverse_cons,
      List.findSome?_append]
    cases choices.reverse.findSome? read with
    | some last => rfl
    | none => simp

/-- A field is the last choice made for it, or its default. -/
theorem ofChoices_field (sets : Sets read field) (choices : List Setting) :
    field (.ofChoices choices) = (lastChoice read choices).getD (field {}) :=
  foldl_choose sets choices {}

theorem field_eq_of_lastChoice (sets : Sets read field) {first second : List Setting}
    (same : lastChoice read first = lastChoice read second) :
    field (.ofChoices first) = field (.ofChoices second) := by
  rw [ofChoices_field sets, ofChoices_field sets, same]

end LastChoice

theorem fixtureDir?_sets : Sets Setting.fixtureDir? fixtureDir := by
  rintro settings (_ | _) <;> rfl

theorem keyword?_sets : Sets Setting.keyword? keyword := by
  rintro settings (_ | _) <;> rfl

theorem marker?_sets : Sets Setting.marker? marker := by
  rintro settings (_ | _) <;> rfl

theorem tolerance?_sets : Sets Setting.tolerance? tolerance := by
  rintro settings (_ | _) <;> rfl

/-! ## Choices about fixtures -/

/-- Two commands choose the same fixture directory, keyword, marker and tolerance. -/
structure SameFixtureChoices (first second : List Setting) : Prop where
  fixtureDir : lastChoice Setting.fixtureDir? first = lastChoice Setting.fixtureDir? second
  keyword : lastChoice Setting.keyword? first = lastChoice Setting.keyword? second
  marker : lastChoice Setting.marker? first = lastChoice Setting.marker? second
  tolerance : lastChoice Setting.tolerance? first = lastChoice Setting.tolerance? second

theorem SameFixtureChoices.fixtures {first second : List Setting}
    (same : SameFixtureChoices first second) (list : Path → Listing) :
    (ofChoices first).fixtures list = (ofChoices second).fixtures list := by
  unfold Settings.fixtures
  rw [field_eq_of_lastChoice fixtureDir?_sets same.fixtureDir,
    field_eq_of_lastChoice keyword?_sets same.keyword,
    field_eq_of_lastChoice tolerance?_sets same.tolerance]

theorem SameFixtureChoices.convention {first second : List Setting}
    (same : SameFixtureChoices first second) :
    (ofChoices first).convention = (ofChoices second).convention :=
  congrArg Convention.marked (field_eq_of_lastChoice marker?_sets same.marker)

end Settings

end Conformance
