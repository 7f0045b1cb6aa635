import Conformance.Fixture
import Mathlib.Data.List.TakeWhile
import Mathlib.Logic.ExistsUnique

/-! # Names of fixtures

A name is found from the end of an identifier: trailing separators go, and what is left up to
the next separator is the name.  An identifier falls into a directory, a name and the separators
that trail in one way only (`splits_iff`), so the name can be described without a search: it is
the part in the middle.  Whatever closed directory stands before a name, the name is found again;
and whatever is decided by names is decided alike for identifiers with the same one.

Looking for the name by offsets in bytes, as one would in UTF-8, finds the same.  The byte behind
a separator is where the next character starts, or the end of the text, so the cut made there is
never refused (`nameAtOffset?_eq`).
-/

namespace Conformance

namespace Fixture

/-! ## Taking an identifier apart -/

/-- A list of characters after which a component begins: nothing, or something that ends in a
    separator. -/
def Closed (before : List Char) : Prop := before = [] ∨ before.getLast? = some '/'

/-- The characters of one component: some, and none of them a separator. -/
structure Component (chars : List Char) : Prop where
  nonempty : chars ≠ []
  unseparated : '/' ∉ chars

theorem takeWhile_reverse_closed {before : List Char} (closed : Closed before) :
    before.reverse.takeWhile (· ≠ '/') = [] := by
  rcases closed with rfl | last
  · rfl
  · rw [List.getLast?_eq_some_iff] at last
    obtain ⟨front, rfl⟩ := last
    simp

/-- Characters that are separators all of them. -/
def Separators (chars : List Char) : Prop := ∀ c ∈ chars, c = '/'

instance (chars : List Char) : Decidable (Separators chars) :=
  List.decidableBAll (fun c : Char => c = '/') chars

theorem Separators.concat {chars : List Char} (separators : Separators chars) :
    Separators (chars ++ ['/']) := by
  intro c member
  rw [List.mem_append, List.mem_singleton] at member
  rcases member with inside | last
  · exact separators c inside
  · exact last

/-- What an identifier is made of. -/
structure Parts where
  dir : String
  name : String
  trail : String
deriving DecidableEq

/-- How an identifier is taken apart.  The name is missing only if there is nothing but
    separators, and these are then said to trail. -/
structure Parts.Splits (parts : Parts) (id : String) : Prop where
  whole : id = parts.dir ++ parts.name ++ parts.trail
  closed : Closed parts.dir.toList
  unseparated : '/' ∉ parts.name.toList
  trailing : Separators parts.trail.toList
  nameless : parts.name = "" → Separators id.toList ∧ parts.dir = ""

/-- Takes an identifier apart, from its end. -/
def Parts.of (id : String) : Parts :=
  let back := id.toList.reverse.dropWhile (· = '/')
  { dir := String.ofList (back.dropWhile (· ≠ '/')).reverse
    name := String.ofList (back.takeWhile (· ≠ '/')).reverse
    trail := String.ofList (id.toList.reverse.takeWhile (· = '/')).reverse }

theorem name_of (fixture : Fixture) : (Parts.of fixture.id).name = fixture.name := rfl

theorem closed_of_dropWhile (back : List Char) : Closed (back.dropWhile (· ≠ '/')).reverse := by
  unfold Closed
  cases rest : back.dropWhile (· ≠ '/') with
  | nil => exact .inl rfl
  | cons first front =>
    have stops := List.head?_dropWhile_not (· ≠ '/') back
    simp only [rest, List.head?_cons] at stops
    right
    simpa using stops

theorem takeWhile_dropWhile_eq_nil {back : List Char}
    (none : (back.dropWhile (· = '/')).takeWhile (· ≠ '/') = []) :
    back.dropWhile (· = '/') = [] := by
  cases rest : back.dropWhile (· = '/') with
  | nil => rfl
  | cons first front =>
    -- The first character that is no separator would be taken.
    have stops := List.head?_dropWhile_not (· = '/') back
    simp only [rest, List.head?_cons] at stops
    rw [rest] at none
    simp_all

theorem splits_of (id : String) : (Parts.of id).Splits id where
  whole := by
    apply String.toList_injective
    simp only [Parts.of, String.toList_append, String.toList_ofList]
    rw [← List.reverse_append, List.takeWhile_append_dropWhile, ← List.reverse_append,
      List.takeWhile_append_dropWhile, List.reverse_reverse]
  closed := by
    simp only [Parts.of, String.toList_ofList]
    exact closed_of_dropWhile _
  unseparated := by
    simp only [Parts.of, String.toList_ofList, List.mem_reverse]
    intro member
    simpa using List.mem_takeWhile_imp member
  trailing := by
    simp only [Parts.of, String.toList_ofList]
    intro c member
    simpa using List.mem_takeWhile_imp (List.mem_reverse.mp member)
  nameless := by
    intro missing
    simp only [Parts.of, String.ofList_eq_empty_iff, List.reverse_eq_nil_iff] at missing
    have none := takeWhile_dropWhile_eq_nil missing
    constructor
    · intro c member
      have all := List.dropWhile_eq_nil_iff.mp none c (List.mem_reverse.mpr member)
      simpa using all
    · simp only [Parts.of, none]
      rfl

theorem Parts.Splits.back_starts {parts : Parts} {id : String} (splits : parts.Splits id) :
    (parts.name.toList.reverse ++ parts.dir.toList.reverse).head? ≠ some '/' := by
  intro first
  cases shape : parts.name.toList.reverse with
  | nil =>
    have missing : parts.name = "" := by simpa using shape
    have noDir := (splits.nameless missing).2
    simp [shape, noDir] at first
  | cons last front =>
    rw [shape, List.cons_append, List.head?_cons, Option.some.injEq] at first
    apply splits.unseparated
    rw [← List.mem_reverse, shape, first]
    exact List.mem_cons_self ..

theorem Parts.Splits.eq_of {parts : Parts} {id : String} (splits : parts.Splits id) :
    parts = Parts.of id := by
  obtain ⟨dir, name, trail⟩ := parts
  -- From the end there are separators, then the name, which has none, and then a separator again.
  have reversed : id.toList.reverse =
      trail.toList.reverse ++ (name.toList.reverse ++ dir.toList.reverse) := by
    rw [splits.whole]
    simp
  have separators : ∀ c ∈ trail.toList.reverse, decide (c = '/') = true := by
    intro c member
    exact decide_eq_true (splits.trailing c (List.mem_reverse.mp member))
  have plain : ∀ c ∈ name.toList.reverse, decide (c ≠ '/') = true := by
    rintro c member
    rw [decide_eq_true_eq]
    rintro rfl
    exact splits.unseparated (List.mem_reverse.mp member)
  have stops := splits.back_starts
  have untaken : (name.toList.reverse ++ dir.toList.reverse).takeWhile (· = '/') = [] := by
    cases back : name.toList.reverse ++ dir.toList.reverse <;> simp_all
  have undropped : (name.toList.reverse ++ dir.toList.reverse).dropWhile (· = '/') =
      name.toList.reverse ++ dir.toList.reverse := by
    cases back : name.toList.reverse ++ dir.toList.reverse <;> simp_all
  have beginning := takeWhile_reverse_closed splits.closed
  have kept : dir.toList.reverse.dropWhile (· ≠ '/') = dir.toList.reverse := by
    have both := List.takeWhile_append_dropWhile (p := (· ≠ '/')) (l := dir.toList.reverse)
    rwa [beginning, List.nil_append] at both
  simp only [Parts.of, reversed]
  rw [List.takeWhile_append_of_pos separators, List.dropWhile_append_of_pos separators, untaken,
    undropped, List.takeWhile_append_of_pos plain, List.dropWhile_append_of_pos plain, beginning,
    kept]
  simp

theorem splits_iff {parts : Parts} {id : String} : parts.Splits id ↔ parts = Parts.of id := by
  constructor
  · exact Parts.Splits.eq_of
  · rintro rfl
    exact splits_of id

theorem Parts.Splits.name_eq {parts : Parts} {fixture : Fixture}
    (splits : parts.Splits fixture.id) : parts.name = fixture.name := by
  rw [splits.eq_of, name_of]

/-- Whatever closed directory stands before a component and however many separators behind it,
    the component is the name. -/
theorem Component.splits {dir name trail : String} (closed : Closed dir.toList)
    (component : Component name.toList) (trailing : Separators trail.toList) :
    Parts.Splits ⟨dir, name, trail⟩ (dir ++ name ++ trail) where
  whole := rfl
  closed := closed
  unseparated := component.unseparated
  trailing := trailing
  nameless := by
    rintro rfl
    exact absurd rfl component.nonempty

theorem Parts.Splits.concat {parts : Parts} {id : String} (splits : parts.Splits id) :
    Parts.Splits { parts with trail := parts.trail ++ "/" } (id ++ "/") where
  whole := by
    rw [splits.whole]
    simp only [String.append_assoc]
  closed := splits.closed
  unseparated := splits.unseparated
  trailing := by
    rw [String.toList_append]
    exact splits.trailing.concat
  nameless := by
    intro missing
    obtain ⟨separators, noDir⟩ := splits.nameless missing
    rw [String.toList_append]
    exact ⟨separators.concat, noDir⟩

theorem splits_of_plain {name : String} (plain : '/' ∉ name.toList) :
    Parts.Splits ⟨"", name, ""⟩ name where
  whole := by simp
  closed := .inl rfl
  unseparated := plain
  trailing := by simp [Separators]
  nameless := by
    rintro rfl
    simp [Separators]

theorem name_append {before name : String} (closed : Closed before.toList)
    (component : Component name.toList) : (⟨before ++ name⟩ : Fixture).name = name := by
  have splits : Parts.Splits ⟨before, name, ""⟩ (before ++ name ++ "") :=
    component.splits closed (by simp [Separators])
  rw [String.append_empty] at splits
  exact splits.name_eq.symm

/-! ## Offsets -/

/-- An identifier without the separators that trail. -/
def trimmed (id : String) : String :=
  String.ofList (id.toList.reverse.dropWhile (· = '/')).reverse

/-- Looks for a separator from the end of a text, which is given last character first.  The
    separator starts at the offset that is the size in bytes of what stands before it. -/
def separatorFromEnd? : List Char → Option Nat
  | [] => none
  | c :: front =>
    if c = '/' then some (String.ofList front.reverse).utf8ByteSize else separatorFromEnd? front

/-- The offset in bytes at which the last separator of a text starts. -/
def lastSeparator? (text : String) : Option Nat := separatorFromEnd? text.toList.reverse

/-- What follows an offset in bytes.  Nothing is cut outside of the text, and no character is
    cut in two. -/
def cutAt? (text : String) (offset : Nat) : Option String :=
  if valid : String.Pos.Raw.IsValid text ⟨offset⟩ then
    some (text.sliceFrom (text.pos ⟨offset⟩ valid)).copy
  else none

/-- The name as it is found by offsets: what follows the byte of the last separator that does
    not trail, or all that does not trail. -/
def nameAtOffset? (id : String) : Option String :=
  match lastSeparator? (trimmed id) with
  | some offset => cutAt? (trimmed id) (offset + 1)
  | none => some (trimmed id)

theorem trimmed_eq (id : String) : trimmed id = (Parts.of id).dir ++ (Parts.of id).name := by
  simp only [trimmed, Parts.of]
  rw [← String.ofList_append, ← List.reverse_append, List.takeWhile_append_dropWhile]

theorem separatorFromEnd?_append {back : List Char} (plain : '/' ∉ back) (front : List Char) :
    separatorFromEnd? (back ++ front) = separatorFromEnd? front := by
  induction back with
  | nil => rfl
  | cons c back ih =>
    rw [List.mem_cons, not_or] at plain
    rw [List.cons_append, separatorFromEnd?, if_neg (Ne.symm plain.1), ih plain.2]

theorem lastSeparator?_append (front : String) {after : String} (plain : '/' ∉ after.toList) :
    lastSeparator? (front ++ "/" ++ after) = some front.utf8ByteSize := by
  have reversed : (front ++ "/" ++ after).toList.reverse =
      after.toList.reverse ++ '/' :: front.toList.reverse := by
    simp
  rw [lastSeparator?, reversed, separatorFromEnd?_append (by simpa using plain),
    separatorFromEnd?, if_pos rfl, List.reverse_reverse, String.ofList_toList]

theorem lastSeparator?_of_plain {text : String} (plain : '/' ∉ text.toList) :
    lastSeparator? text = none := by
  have reversed : '/' ∉ text.toList.reverse := by simpa using plain
  have none := separatorFromEnd?_append reversed []
  rwa [List.append_nil] at none

theorem cutAt?_append (front after : String) :
    cutAt? (front ++ after) front.utf8ByteSize = some after := by
  have valid : String.Pos.Raw.IsValid (front ++ after) ⟨front.utf8ByteSize⟩ :=
    String.Pos.Raw.isValid_iff_exists_append.mpr ⟨front, after, rfl, rfl⟩
  have splits : ((front ++ after).pos ⟨front.utf8ByteSize⟩ valid).Splits front after :=
    ⟨rfl, rfl⟩
  rw [cutAt?, dif_pos valid, splits.copy_sliceFrom_eq]

theorem isValid_of_cutAt? {text : String} {offset : Nat} {rest : String}
    (cut : cutAt? text offset = some rest) : String.Pos.Raw.IsValid text ⟨offset⟩ := by
  by_contra invalid
  rw [cutAt?, dif_neg invalid] at cut
  cases cut

/-- A directory that is not empty ends in the last separator that does not trail. -/
theorem Closed.cases {dir : String} (closed : Closed dir.toList) :
    dir = "" ∨ ∃ front : String, dir = front ++ "/" := by
  rcases closed with none | last
  · left
    simpa using none
  · right
    obtain ⟨front, shape⟩ := List.getLast?_eq_some_iff.mp last
    refine ⟨String.ofList front, ?_⟩
    apply String.toList_injective
    simp [shape]

theorem nameAtOffset?_eq (fixture : Fixture) :
    nameAtOffset? fixture.id = some fixture.name := by
  have splits := splits_of fixture.id
  have trimmed := trimmed_eq fixture.id
  rw [name_of] at trimmed
  have plain : '/' ∉ fixture.name.toList := splits.unseparated
  unfold nameAtOffset?
  rcases splits.closed.cases with none | ⟨front, shape⟩
  · rw [none, String.empty_append] at trimmed
    rw [trimmed, lastSeparator?_of_plain plain]
  · rw [shape] at trimmed
    have behind : front.utf8ByteSize + 1 = (front ++ "/").utf8ByteSize := by
      rw [String.utf8ByteSize_append]
      rfl
    rw [trimmed, lastSeparator?_append front plain]
    simp only [behind, cutAt?_append]

theorem isValid_behind_lastSeparator {fixture : Fixture} {offset : Nat}
    (found : lastSeparator? (trimmed fixture.id) = some offset) :
    String.Pos.Raw.IsValid (trimmed fixture.id) ⟨offset + 1⟩ := by
  have name := nameAtOffset?_eq fixture
  rw [nameAtOffset?, found] at name
  exact isValid_of_cutAt? name

/-! ## Names -/

/-- The name of a fixture is the part in the middle of the only way to take its identifier apart.
    It is found by offsets in bytes as well: the cut behind the last separator lies inside of the
    text and between two characters.  A name is its own name, separators behind an identifier do
    not change its name, and behind a separator every component is the name. -/
theorem name_in_the_middle (fixture : Fixture) :
    (∃! parts : Parts, parts.Splits fixture.id) ∧
    (∀ parts : Parts, parts.Splits fixture.id → parts.name = fixture.name) ∧
    nameAtOffset? fixture.id = some fixture.name ∧
    (∀ offset, lastSeparator? (trimmed fixture.id) = some offset →
      offset + 1 ≤ (trimmed fixture.id).utf8ByteSize ∧
      String.Pos.Raw.IsValid (trimmed fixture.id) ⟨offset + 1⟩) ∧
    (⟨fixture.name⟩ : Fixture).name = fixture.name ∧
    (⟨fixture.id ++ "/"⟩ : Fixture).name = fixture.name ∧
    ∀ dir name : String, name ≠ "" → '/' ∉ name.toList →
      (⟨dir ++ "/" ++ name⟩ : Fixture).name = name := by
  have splits := splits_of fixture.id
  refine ⟨⟨Parts.of fixture.id, splits, fun _ => Parts.Splits.eq_of⟩,
    fun _ => Parts.Splits.name_eq, nameAtOffset?_eq fixture, ?_, ?_, ?_, ?_⟩
  · intro offset found
    have valid := isValid_behind_lastSeparator found
    exact ⟨valid.le_utf8ByteSize, valid⟩
  · exact (splits_of_plain splits.unseparated).name_eq.symm
  · exact splits.concat.name_eq.symm
  · intro dir name nonempty plain
    have component : Component name.toList := ⟨by simpa using nonempty, plain⟩
    exact name_append (.inr (by simp)) component

theorem repeatedSeparators_named :
    (⟨"ä//ü//"⟩ : Fixture).name = "ü" ∧
    nameAtOffset? "ä//ü//" = some "ü" ∧
    lastSeparator? (trimmed "ä//ü//") = some 3 ∧
    String.Pos.Raw.IsValid (trimmed "ä//ü//") ⟨4⟩ ∧
    (⟨"ä/" ++ "/" ++ "ü"⟩ : Fixture).name = "ü" := by
  obtain ⟨-, middle, byOffset, boundary, -, -, behind⟩ := name_in_the_middle ⟨"ä//ü//"⟩
  have splits : Parts.Splits ⟨"ä//", "ü", "//"⟩ "ä//ü//" :=
    Component.splits (.inr (by decide)) ⟨by decide, by decide⟩ (by decide)
  have name : (⟨"ä//ü//"⟩ : Fixture).name = "ü" := (middle _ splits).symm
  have found : lastSeparator? (trimmed "ä//ü//") = some 3 := by decide
  rw [name] at byOffset
  exact ⟨name, byOffset, found, (boundary 3 found).2, behind "ä/" "ü" (by decide) (by decide)⟩

/-! ## Keywords -/

theorem select_eq_filter (keyword : Option String) (fixtures : List Fixture) :
    select keyword fixtures =
      fixtures.filter fun fixture => keyword.all (Text.contains · fixture.name) := by
  cases keyword with
  | none => exact (List.filter_eq_self.mpr fun _ _ => rfl).symm
  | some word =>
    simp only [select, Option.all_some]
    rfl

end Fixture

end Conformance
