import Conformance.Proofs.Fixture
import Conformance.Proofs.Listing

/-! # What the directory decides

The directory stands before every name of a listing, and that is all it does.  Behind one
directory or another, the fixtures of the same entries come in the order of their names, and
each has the name of its entry; so what is read off names, which is what is expected of a
fixture and whether a keyword selects it, comes out the same at every position.
-/

namespace Conformance

namespace Listing

/-! ## Joining -/

/-- What stands before the names of a directory. -/
def stem (dir : String) : String :=
  if dir = "" ∨ dir.toList.getLast? = some '/' then dir else dir ++ "/"

theorem join_eq_stem {dir name : String} (relative : name.toList.head? ≠ some '/') :
    join dir name = stem dir ++ name := by
  rw [join, if_neg relative, stem]
  split <;> rfl

theorem closed_stem (dir : String) : Fixture.Closed (stem dir).toList := by
  rw [stem]
  split
  next closed =>
    rcases closed with rfl | separated
    · exact .inl rfl
    · exact .inr separated
  next => exact .inr (by simp)

theorem head?_of_component {name : String} (component : Fixture.Component name.toList) :
    name.toList.head? ≠ some '/' :=
  fun rooted => component.unseparated (List.mem_of_mem_head? rooted)

theorem name_join {dir name : String} (component : Fixture.Component name.toList) :
    (⟨join dir name⟩ : Fixture).name = name := by
  rw [join_eq_stem (head?_of_component component)]
  exact Fixture.name_append (closed_stem dir) component

theorem join_before {dir first second : String} (firstRelative : first.toList.head? ≠ some '/')
    (secondRelative : second.toList.head? ≠ some '/')
    (before : Utf8.encode first < Utf8.encode second) :
    Fixture.Before ⟨join dir first⟩ ⟨join dir second⟩ := by
  rw [Fixture.Before, join_eq_stem firstRelative, join_eq_stem secondRelative,
    Utf8.encode_append, Utf8.encode_append]
  exact List.append_left_lt before

/-! ## Names in order -/

/-- Entries whose names are those of files: not empty, and without a separator. -/
def FileNames (entries : List DirEntry) : Prop :=
  ∀ bytes, .named bytes ∈ entries → bytes ≠ [] ∧ Path.separator ∉ bytes

theorem FileNames.component {entries : List DirEntry} (fileNames : FileNames entries)
    {name : String} (listed : .named (Utf8.encode name) ∈ entries) :
    Fixture.Component name.toList := by
  obtain ⟨nonempty, unseparated⟩ := fileNames _ listed
  constructor
  · intro empty
    refine nonempty ?_
    simp [Utf8.encode, empty]
  · intro slash
    exact unseparated ((Utf8.mem_encode (by decide) rfl).mpr slash)

/-- The names of the visible entries, in order, each once: the identifiers they have where no
    directory stands before them. -/
def fixtureNames (entries : List DirEntry) : List String :=
  (fixturesAmong "" entries).map Fixture.id

theorem pairwise_fixtureNames (entries : List DirEntry) :
    (fixtureNames entries).Pairwise fun first second =>
      Utf8.encode first < Utf8.encode second :=
  List.pairwise_map.mpr (Fixture.pairwise_eraseReps_sort _)

theorem mem_fixtureNames {entries : List DirEntry} {name : String} :
    name ∈ fixtureNames entries ↔
      .named (Utf8.encode name) ∈ entries ∧ name.toList.head? ≠ some '.' := by
  have undirected (other : String) : join "" other = other := by
    by_cases rooted : other.toList.head? = some '/'
    · rw [join, if_pos rooted]
    · rw [join_eq_stem rooted]
      exact String.empty_append
  simp only [fixtureNames, List.mem_map, mem_fixturesAmong, undirected]
  constructor
  · rintro ⟨fixture, ⟨other, listed, visible, same⟩, rfl⟩
    exact same ▸ ⟨listed, visible⟩
  · rintro ⟨listed, visible⟩
    exact ⟨⟨name⟩, ⟨name, listed, visible, rfl⟩, rfl⟩

section FileNames

variable {entries : List DirEntry} (fileNames : FileNames entries)

include fileNames

theorem component_of_mem {name : String} (member : name ∈ fixtureNames entries) :
    Fixture.Component name.toList :=
  fileNames.component (mem_fixtureNames.mp member).1

/-- The fixtures of a directory are its names in order, each behind the directory. -/
theorem fixturesAmong_eq_map (dir : String) :
    fixturesAmong dir entries = (fixtureNames entries).map fun name => ⟨join dir name⟩ := by
  refine Fixture.eq_of_before (Fixture.pairwise_eraseReps_sort _) ?_ ?_
  · refine List.pairwise_map.mpr ((pairwise_fixtureNames entries).imp_of_mem ?_)
    intro first second firstMember secondMember before
    exact join_before (head?_of_component (component_of_mem fileNames firstMember))
      (head?_of_component (component_of_mem fileNames secondMember)) before
  · intro fixture
    simp only [mem_fixturesAmong, List.mem_map, mem_fixtureNames]
    constructor
    · rintro ⟨name, listed, visible, same⟩
      exact ⟨name, ⟨listed, visible⟩, same ▸ rfl⟩
    · rintro ⟨name, ⟨listed, visible⟩, rfl⟩
      exact ⟨name, listed, visible, rfl⟩

/-- Whatever is read off the names of the fixtures of a directory is read off the names of
    its entries. -/
theorem map_fixturesAmong {α : Type} (read : String → α) (dir : String) :
    ((fixturesAmong dir entries).map fun fixture => read fixture.name) =
      (fixtureNames entries).map read := by
  rw [fixturesAmong_eq_map fileNames, List.map_map]
  refine List.map_congr_left fun name member => ?_
  exact congrArg read (name_join (component_of_mem fileNames member))

/-- What a keyword selects among the fixtures of a directory are the names that contain it,
    each behind the directory. -/
theorem select_fixturesAmong (keyword : Option String) (dir : String) :
    Fixture.select keyword (fixturesAmong dir entries) =
      ((fixtureNames entries).filter fun name => keyword.all (Text.contains · name)).map
        fun name => ⟨join dir name⟩ := by
  rw [Fixture.select_eq_filter, fixturesAmong_eq_map fileNames, List.filter_map]
  refine congrArg (List.map _) (List.filter_congr fun name member => ?_)
  rw [Function.comp_apply, name_join (component_of_mem fileNames member)]

end FileNames

/-! ## Positions -/

/-- What a filter keeps stands at the same positions in every list that is made of the
    filtered one element by element. -/
theorem exists_positions {α β : Type} (keep : α → Bool) (list : List α) :
    ∃ positions : List Nat, positions.Pairwise (· < ·) ∧
      ∀ change : α → β,
        (list.filter keep).map change = positions.filterMap fun p => (list.map change)[p]? := by
  obtain ⟨indices, kept, increasing⟩ :=
    List.sublist_eq_map_getElem (List.filter_sublist (p := keep) (l := list))
  refine ⟨indices.map Fin.val, List.pairwise_map.mpr increasing, fun change => ?_⟩
  rw [kept, List.map_map, List.filterMap_map, ← List.filterMap_eq_map]
  refine congrArg (indices.filterMap ·) (funext fun index => ?_)
  simp

/-! ## Two directories -/

/-- The fixtures of the same entries behind two directories.  Both lists hold the visible
    names of the entries in byte order, each once and behind its directory; the names read off
    them are those of the entries.  So what a marker says about them agrees position by
    position, and a keyword keeps the same positions. -/
theorem gather_behind_directories (list relist : Path → Listing) (dir other : String)
    (entries : List DirEntry) (listed : list (.ofString dir) = .ok entries)
    (relisted : relist (.ofString other) = .ok entries) (fileNames : FileNames entries) :
    ∃ fixtures others names,
      (gather list (.ofString dir)).value = .ok fixtures ∧
      (gather relist (.ofString other)).value = .ok others ∧
      fixtures.length = others.length ∧
      fixtures = names.map (fun name => ⟨join dir name⟩) ∧
      others = names.map (fun name => ⟨join other name⟩) ∧
      fixtures.map Fixture.name = names ∧ others.map Fixture.name = names ∧
      (∀ name, name ∈ names ↔
        .named (Utf8.encode name) ∈ entries ∧ name.toList.head? ≠ some '.') ∧
      names.Pairwise (fun first second => Utf8.encode first < Utf8.encode second) ∧
      (∀ marker, fixtures.map (Convention.marked marker) = others.map (Convention.marked marker)) ∧
      (∀ keyword, ∃ positions : List Nat, positions.Pairwise (· < ·) ∧
        Fixture.select keyword fixtures = positions.filterMap (fixtures[·]?) ∧
        Fixture.select keyword others = positions.filterMap (others[·]?)) ∧
      ∀ anywhere name, Fixture.Component name.toList →
        (⟨join anywhere name⟩ : Fixture).name = name := by
  have behind := fixturesAmong_eq_map fileNames
  have named (dir : String) : (fixturesAmong dir entries).map Fixture.name =
      fixtureNames entries :=
    (map_fixturesAmong fileNames id dir).trans (List.map_id _)
  refine ⟨fixturesAmong dir entries, fixturesAmong other entries, fixtureNames entries,
    by rw [gather_of_listed listed], by rw [gather_of_listed relisted], ?_, behind dir,
    behind other, named dir, named other, fun name => mem_fixtureNames,
    pairwise_fixtureNames entries, ?_, ?_, fun _ _ => name_join⟩
  · rw [behind dir, behind other, List.length_map, List.length_map]
  · intro marker
    have marked := map_fixturesAmong fileNames fun name =>
      if Text.contains marker name then Expectation.rejected else Expectation.accepted
    exact (marked dir).trans (marked other).symm
  · intro keyword
    obtain ⟨positions, increasing, kept⟩ :=
      exists_positions (fun name => keyword.all (Text.contains · name)) (fixtureNames entries)
    refine ⟨positions, increasing, ?_, ?_⟩
    · rw [select_fixturesAmong fileNames, kept, ← behind]
    · rw [select_fixturesAmong fileNames, kept, ← behind]

/-- A listing with a marked name, a hidden one and one that is listed twice. -/
def markedEntries : List DirEntry :=
  ["b_fail", ".c", "a", "a"].map fun name => .named (Utf8.encode name)

theorem markedEntries_behind_directories :
    ∃ fixtures others,
      (gather (fun _ => .ok markedEntries) (.ofString "failures//")).value = .ok fixtures ∧
      (gather (fun _ => .ok markedEntries) (.ofString "")).value = .ok others ∧
      fixtures.map Fixture.name = others.map Fixture.name ∧
      fixtures.map (Convention.marked "fail") = others.map (Convention.marked "fail") ∧
      "a" ∈ fixtures.map Fixture.name := by
  have fileNames : FileNames markedEntries := by
    have plain : ∀ name ∈ ["b_fail", ".c", "a", "a"],
        Utf8.encode name ≠ [] ∧ Path.separator ∉ Utf8.encode name := by decide +kernel
    intro bytes listed
    obtain ⟨name, member, same⟩ := List.mem_map.mp listed
    cases same
    exact plain name member
  obtain ⟨fixtures, others, names, found, refound, -, -, -, named, renamed, members, -, marked,
      -, -⟩ :=
    gather_behind_directories (fun _ => .ok markedEntries) (fun _ => .ok markedEntries)
      "failures//" "" markedEntries rfl rfl fileNames
  refine ⟨fixtures, others, found, refound, named.trans renamed.symm, marked "fail", ?_⟩
  rw [named]
  exact (members "a").mpr ⟨by decide +kernel, by decide +kernel⟩

end Listing

end Conformance
