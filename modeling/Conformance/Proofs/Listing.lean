import Conformance.Listing
import Conformance.Proofs.Text.Utf8
import Mathlib.Data.List.Dedup

/-! # What a listing comes to

The fixtures of a directory are told from the names in a listing of it: sorting makes equal
ones neighbours, and erasing repetitions leaves each once.  The result is strictly sorted, and
a strictly sorted list is determined by its members; so neither the order of the listing nor
an entry that is listed twice makes a difference.

Joining a directory and a name prepends the same text to every name that does not start at
the root, so different names stay different.
-/

namespace Conformance

/-! ## Erasing repetitions -/

section EraseReps

variable {α : Type}

theorem eraseReps_loop (same : α → α → Bool) (a : α) (rest done : List α) :
    List.eraseRepsBy.loop same a rest done =
      done.reverse ++ List.eraseRepsBy.loop same a rest [] := by
  induction rest generalizing a done with
  | nil => simp [List.eraseRepsBy.loop]
  | cons b rest ih =>
    rw [List.eraseRepsBy.loop, List.eraseRepsBy.loop]
    cases same a b with
    | true => exact ih a done
    | false =>
      show List.eraseRepsBy.loop same b rest (a :: done) =
        done.reverse ++ List.eraseRepsBy.loop same b rest [a]
      rw [ih b (a :: done), ih b [a]]
      simp

theorem eraseReps_cons_cons [DecidableEq α] (a b : α) (rest : List α) :
    (a :: b :: rest).eraseReps =
      if a = b then (a :: rest).eraseReps else a :: (b :: rest).eraseReps := by
  show List.eraseRepsBy.loop (· == ·) a (b :: rest) [] =
    if a = b then List.eraseRepsBy.loop (· == ·) a rest []
    else a :: List.eraseRepsBy.loop (· == ·) b rest []
  rw [List.eraseRepsBy.loop]
  by_cases same : a = b
  · rw [if_pos same, beq_iff_eq.mpr same]
  · rw [if_neg same, beq_eq_false_iff_ne.mpr same]
    exact eraseReps_loop _ b rest [a]

theorem mem_eraseReps [DecidableEq α] {a : α} {list : List α} :
    a ∈ list.eraseReps ↔ a ∈ list := by
  cases list with
  | nil => rfl
  | cons first rest =>
    induction rest generalizing first with
    | nil => rfl
    | cons second rest ih =>
      rw [eraseReps_cons_cons]
      split
      next same => rw [ih first, same, List.mem_cons, List.mem_cons, List.mem_cons, or_self_left]
      next => rw [List.mem_cons, ih second, ← List.mem_cons]

/-- In a sorted list equal elements are neighbours, so none is left twice. -/
theorem pairwise_eraseReps [DecidableEq α] {before strictly : α → α → Prop}
    (strict : ∀ {a b}, before a b → a ≠ b → strictly a b)
    (trans : ∀ {a b c}, strictly a b → before b c → strictly a c)
    {list : List α} (sorted : list.Pairwise before) : list.eraseReps.Pairwise strictly := by
  cases list with
  | nil => exact .nil
  | cons first rest =>
    induction rest generalizing first with
    | nil => exact List.pairwise_singleton strictly first
    | cons second rest ih =>
      obtain ⟨firstBefore, restSorted⟩ := List.pairwise_cons.mp sorted
      rw [eraseReps_cons_cons]
      split
      next same =>
        -- The repetition goes, and the first of its run stands for both.
        exact ih first (same ▸ restSorted)
      next differ =>
        refine List.pairwise_cons.mpr ⟨?_, ih second restSorted⟩
        intro later member
        have lead := strict (firstBefore second (List.mem_cons_self ..)) differ
        rcases List.mem_cons.mp (mem_eraseReps.mp member) with rfl | behind
        · exact lead
        · exact trans lead ((List.pairwise_cons.mp restSorted).1 later behind)

end EraseReps

/-! ## Fixtures in order -/

namespace Fixture

/-- Before another one by the bytes of the identifier. -/
def Before (a b : Fixture) : Prop := Utf8.encode a.id < Utf8.encode b.id

theorem Before.ne {a b : Fixture} (before : a.Before b) : a ≠ b := by
  rintro rfl
  exact List.lt_irrefl _ before

theorem lt_of_le_of_ne {a b : Fixture} (le : a.id ≤ b.id) (differ : a ≠ b) : a.id < b.id := by
  by_cases lt : a.id < b.id
  · exact lt
  · have same : a.id = b.id := String.le_antisymm le (String.not_lt.mp lt)
    exact absurd (congrArg Fixture.mk same) differ

theorem lt_of_lt_of_le {a b c : Fixture} (lt : a.id < b.id) (le : b.id ≤ c.id) :
    a.id < c.id := by
  by_cases goal : a.id < c.id
  · exact goal
  · exact absurd lt (String.not_lt.mpr (String.le_trans le (String.not_lt.mp goal)))

theorem pairwise_sort (fixtures : List Fixture) :
    (sort fixtures).Pairwise fun a b => a.id ≤ b.id := by
  have trans (a b c : Fixture) (first : a.precedes b = true) (second : b.precedes c = true) :
      a.precedes c = true :=
    decide_eq_true (String.le_trans (of_decide_eq_true first) (of_decide_eq_true second))
  have total (a b : Fixture) : (a.precedes b || b.precedes a) = true := by
    simp only [precedes, Bool.or_eq_true, decide_eq_true_eq]
    exact String.le_total a.id b.id
  exact (List.pairwise_mergeSort trans total fixtures).imp fun precedes =>
    of_decide_eq_true precedes

theorem pairwise_eraseReps_sort (fixtures : List Fixture) :
    (sort fixtures).eraseReps.Pairwise Before := by
  have strictly := pairwise_eraseReps lt_of_le_of_ne lt_of_lt_of_le (pairwise_sort fixtures)
  exact strictly.imp fun lt => Utf8.encode_lt lt

theorem mem_eraseReps_sort {fixture : Fixture} {fixtures : List Fixture} :
    fixture ∈ (sort fixtures).eraseReps ↔ fixture ∈ fixtures := by
  rw [mem_eraseReps, sort, List.mem_mergeSort]

theorem nodup_of_before {fixtures : List Fixture} (sorted : fixtures.Pairwise Before) :
    fixtures.Nodup :=
  sorted.imp Before.ne

/-- Lists in strict order are equal if they have the same members. -/
theorem eq_of_before {first second : List Fixture} (sorted : first.Pairwise Before)
    (otherSorted : second.Pairwise Before)
    (same : ∀ fixture, fixture ∈ first ↔ fixture ∈ second) : first = second := by
  have perm := (List.perm_ext_iff_of_nodup (nodup_of_before sorted)
    (nodup_of_before otherSorted)).mpr same
  refine perm.eq_of_pairwise ?_ sorted otherSorted
  intro a b _ _ before after
  exact absurd (List.lt_trans before after) (List.lt_irrefl _)

end Fixture

/-! ## Names -/

namespace Listing

/-- The name of a visible entry. -/
def visibleName? : DirEntry → Option String
  | .unreadable _ => none
  | .named bytes => (Utf8.decode? bytes).filter fun name => !isHidden name

/-- The names of the visible entries, as often as they are listed. -/
def visibleNames (entries : List DirEntry) : List String := entries.filterMap visibleName?

theorem mem_visibleNames {name : String} {entries : List DirEntry} :
    name ∈ visibleNames entries ↔
      .named (Utf8.encode name) ∈ entries ∧ name.toList.head? ≠ some '.' := by
  have names (entry : DirEntry) : visibleName? entry = some name ↔
      entry = .named (Utf8.encode name) ∧ name.toList.head? ≠ some '.' := by
    cases entry with
    | unreadable cause => simp [visibleName?]
    | named bytes =>
      rw [visibleName?, Option.filter_eq_some_iff, Utf8.decode?_eq_some_iff,
        DirEntry.named.injEq, eq_comm]
      simp [isHidden]
  simp only [visibleNames, List.mem_filterMap, names]
  constructor
  · rintro ⟨entry, member, rfl, visible⟩
    exact ⟨member, visible⟩
  · rintro ⟨member, visible⟩
    exact ⟨_, member, rfl, visible⟩

theorem fixture?_eq (dir : String) (entry : DirEntry) :
    fixture? dir entry = (visibleName? entry).map fun name => ⟨join dir name⟩ := by
  cases entry with
  | unreadable cause => rfl
  | named bytes =>
    rw [fixture?, visibleName?]
    cases Utf8.decode? bytes with
    | none => rfl
    | some name => cases hidden : isHidden name <;> simp [hidden, Option.filter]

theorem filterMap_fixture? (dir : String) (entries : List DirEntry) :
    entries.filterMap (fixture? dir) =
      (visibleNames entries).map fun name => ⟨join dir name⟩ := by
  rw [visibleNames, List.map_filterMap]
  exact congrArg (entries.filterMap ·) (funext (fixture?_eq dir))

theorem mem_fixturesAmong {dir : String} {entries : List DirEntry} {fixture : Fixture} :
    fixture ∈ fixturesAmong dir entries ↔
      ∃ name, .named (Utf8.encode name) ∈ entries ∧ name.toList.head? ≠ some '.' ∧
        fixture.id = join dir name := by
  rw [fixturesAmong, Fixture.mem_eraseReps_sort, filterMap_fixture?, List.mem_map]
  have names (name : String) :
      (⟨join dir name⟩ : Fixture) = fixture ↔ fixture.id = join dir name := by
    cases fixture
    rw [Fixture.mk.injEq, eq_comm]
  simp only [mem_visibleNames, names, and_assoc]

/-- Names that do not start at the root stay different behind the same directory. -/
theorem join_inj {dir first second : String} (firstRelative : first.toList.head? ≠ some '/')
    (secondRelative : second.toList.head? ≠ some '/') (same : join dir first = join dir second) :
    first = second := by
  simp only [join, if_neg firstRelative, if_neg secondRelative] at same
  split at same
  · exact (String.append_right_inj dir).mp same
  · exact (String.append_right_inj _).mp same

theorem length_fixturesAmong {dir : String} {entries : List DirEntry}
    (relative : ∀ name ∈ visibleNames entries, name.toList.head? ≠ some '/') :
    (fixturesAmong dir entries).length = (visibleNames entries).dedup.length := by
  -- Both sides list the same fixtures, and neither lists one twice.
  have joined :
      ((visibleNames entries).dedup.map fun name => (⟨join dir name⟩ : Fixture)).Nodup := by
    refine (List.nodup_dedup _).map_on fun first firstMember second secondMember same => ?_
    exact join_inj (relative first (List.mem_dedup.mp firstMember))
      (relative second (List.mem_dedup.mp secondMember)) (congrArg Fixture.id same)
  have once := Fixture.nodup_of_before
    (Fixture.pairwise_eraseReps_sort (entries.filterMap (fixture? dir)))
  have perm : (fixturesAmong dir entries).Perm
      ((visibleNames entries).dedup.map fun name => ⟨join dir name⟩) := by
    refine (List.perm_ext_iff_of_nodup once joined).mpr fun fixture => ?_
    rw [Fixture.mem_eraseReps_sort, filterMap_fixture?]
    simp only [List.mem_map, List.mem_dedup]
  rw [perm.length_eq, List.length_map]

/-! ## Warnings -/

/-- An entry that cannot be a fixture for a reason the user may not know. -/
def Unusable : DirEntry → Prop
  | .unreadable _ => True
  | .named bytes => ¬ ∃ name, Utf8.encode name = bytes

instance : DecidablePred Unusable
  | .unreadable _ => .isTrue trivial
  | .named _ => decidable_of_iff _ (not_congr Utf8.isValid_iff)

/-- The warning about an unusable entry. -/
def warning (dir : Path) : DirEntry → LogEvent
  | .unreadable cause => .unreadableEntry dir cause
  | .named bytes => .nonUtf8Name bytes

theorem log?_eq (dir : Path) (entry : DirEntry) :
    log? dir entry = if Unusable entry then some (warning dir entry) else none := by
  cases entry with
  | unreadable cause => rfl
  | named bytes =>
    have unusable : Unusable (.named bytes) ↔ ¬ Utf8.isValid bytes = true :=
      not_congr Utf8.isValid_iff.symm
    by_cases valid : Utf8.isValid bytes = true
    · rw [log?, if_pos valid, if_neg fun refused => unusable.mp refused valid]
    · rw [log?, if_neg valid, if_pos (unusable.mpr valid)]
      rfl

theorem filterMap_log? (dir : Path) (entries : List DirEntry) :
    entries.filterMap (log? dir) = (entries.filter (Unusable ·)).map (warning dir) := by
  induction entries with
  | nil => rfl
  | cons entry rest ih =>
    by_cases unusable : Unusable entry
    · simp [log?_eq, unusable, ← ih]
    · simp [log?_eq, unusable, ← ih]

theorem level_warning (dir : Path) (entry : DirEntry) : (warning dir entry).level = .warn := by
  cases entry <;> rfl

/-! ## Directories -/

theorem gather_of_listed {list : Path → Listing} {dir : String} {entries : List DirEntry}
    (listed : list (.ofString dir) = .ok entries) :
    gather list (.ofString dir) =
      { logs := (entries.filter (Unusable ·)).map (warning (.ofString dir)) ++
          [.discovered (fixturesAmong dir entries).length]
        value := .ok (fixturesAmong dir entries) } := by
  have text : (Path.ofString dir).text? = some dir := Utf8.decode?_encode dir
  simp only [gather, text, listed, filterMap_log?]

/-- The fixtures of a listed directory are in strict order by the bytes of their identifiers,
    and they are the visible UTF-8 names of the listing, each behind the directory.  A listing
    with the same entries, in whatever order and however often, gives the same fixtures.  If no
    name contains a separator, there are as many as there are different names.  Every entry
    that is unreadable or has a name that is not UTF-8 is warned about, and no other is. -/
theorem gather_exact (list : Path → Listing) (dir : String) (entries : List DirEntry)
    (listed : list (.ofString dir) = .ok entries) :
    let gathered := gather list (.ofString dir)
    let warnings := (entries.filter (Unusable ·)).map (warning (.ofString dir))
    ∃ fixtures,
      gathered.value = .ok fixtures ∧
      fixtures.Pairwise Fixture.Before ∧ fixtures.Nodup ∧
      (∀ fixture, fixture ∈ fixtures ↔
        ∃ name, .named (Utf8.encode name) ∈ entries ∧ name.toList.head? ≠ some '.' ∧
          fixture.id = join dir name) ∧
      (∀ relist others, relist (.ofString dir) = .ok others →
        (∀ entry, entry ∈ others ↔ entry ∈ entries) →
        (gather relist (.ofString dir)).value = .ok fixtures) ∧
      ((∀ bytes, .named bytes ∈ entries → Path.separator ∉ bytes) →
        fixtures.length = (visibleNames entries).dedup.length) ∧
      gathered.logs = warnings ++ [.discovered fixtures.length] ∧
      gathered.logs.filter (·.level = .warn) = warnings := by
  intro gathered warnings
  have gathers : gathered = _ := gather_of_listed listed
  have sorted (others : List DirEntry) : (fixturesAmong dir others).Pairwise Fixture.Before :=
    Fixture.pairwise_eraseReps_sort _
  refine ⟨fixturesAmong dir entries, by rw [gathers], sorted entries,
    Fixture.nodup_of_before (sorted entries), fun fixture => mem_fixturesAmong, ?_, ?_,
    by rw [gathers], ?_⟩
  · intro relist others relisted same
    rw [gather_of_listed relisted]
    refine congrArg Except.ok (Fixture.eq_of_before (sorted others) (sorted entries) ?_)
    intro fixture
    simp only [mem_fixturesAmong, same]
  · -- A name that starts at the root would contain a separator.
    intro plain
    refine length_fixturesAmong fun name member rooted => ?_
    have slash : '/' ∈ name.toList := List.mem_of_mem_head? rooted
    exact plain _ (mem_visibleNames.mp member).1 ((Utf8.mem_encode (by decide) rfl).mpr slash)
  · rw [gathers, List.filter_append, List.filter_eq_self.mpr]
    · exact List.append_nil _
    · intro event member
      obtain ⟨entry, -, rfl⟩ := List.mem_map.mp member
      exact decide_eq_true (level_warning _ entry)

/-- A listing with a name twice, a hidden one, one that is not UTF-8 and an unreadable entry. -/
def mixedEntries : List DirEntry :=
  [.named (Utf8.encode "b"), .named [0x2E, 0xFF], .named (Utf8.encode ".c"),
    .unreadable (.because "gone"), .named (Utf8.encode "a"), .named (Utf8.encode "b")]

theorem mixedEntries_gathered :
    let gathered := gather (fun _ => .ok mixedEntries) (.ofString "d")
    ∃ fixtures, gathered.value = .ok fixtures ∧ fixtures.length = 2 ∧ ⟨"d/a"⟩ ∈ fixtures ∧
      gathered.logs.filter (·.level = .warn) =
        [.nonUtf8Name [0x2E, 0xFF], .unreadableEntry (.ofString "d") (.because "gone")] := by
  obtain ⟨fixtures, value, -, -, member, -, length, -, warned⟩ :=
    gather_exact (fun _ => .ok mixedEntries) "d" mixedEntries rfl
  refine ⟨fixtures, value, (length ?_).trans (by decide +kernel), ?_,
    warned.trans (by decide +kernel)⟩
  · intro bytes named
    simp only [mixedEntries, List.mem_cons, DirEntry.named.injEq, reduceCtorEq,
      List.not_mem_nil, or_false, false_or] at named
    rcases named with rfl | rfl | rfl | rfl | rfl <;> decide +kernel
  · exact (member ⟨"d/a"⟩).mpr ⟨"a", by decide +kernel, by decide +kernel, by decide +kernel⟩

end Listing

end Conformance
