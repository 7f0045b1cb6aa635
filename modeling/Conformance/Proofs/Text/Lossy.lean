import Conformance.Invocation
import Conformance.Proofs.Text.Rows
import Mathlib.Data.List.Basic

/-! # Lossy text

Bytes that are not UTF-8 are shown with one U+FFFD for each maximal subpart.  `Substituted` says
what that means without a scanner: where a character stands it is shown, and where none stands,
the longest front that could still have become one is replaced, or a single byte if there is no
such front.  The scanner does just this (`substituted_iff`).

Everything rests on the places where a byte string can be cut (`Breaks`).  The scanner breaks
off there, so the pieces of the two sides are found independently of each other.  There is such
a place before and behind every encoded text, since no byte that begins a character continues
another one.
-/

namespace Conformance.Utf8

open String (utf8EncodeChar)

/-! ## What is under way -/

/-- The range left to the next byte has something in it and holds only bytes that continue a
    character. -/
structure Begun.InRange (begun : Begun) : Prop where
  low : 0x80 ≤ begun.lowest.toNat
  ordered : begun.lowest.toNat ≤ begun.highest.toNat
  high : begun.highest.toNat ≤ 0xBF

theorem Begun.inRange_of_full {begun : Begun} (low : begun.lowest = 0x80)
    (high : begun.highest = 0xBF) : begun.InRange := by
  constructor <;> simp [low, high]

theorem Begun.inRange_of_begins {b : UInt8} {begun : Begun}
    (begins : Lead.ofByte b = .begins begun) : begun.InRange := by
  rcases Lead.ofByte_cases b with ⟨-, reads⟩ | ⟨-, -, reads⟩ | ⟨-, -, reads⟩ |
    ⟨-, -, reads⟩ | ⟨-, reads⟩ <;> rw [reads] at begins <;> cases begins
  · exact inRange_of_full rfl rfl
  · by_cases first : b = 0xE0
    · subst first
      exact ⟨by decide, by decide, by decide⟩
    · by_cases second : b = 0xED <;> constructor <;> simp [first, second]
  · by_cases first : b = 0xF0
    · subst first
      exact ⟨by decide, by decide, by decide⟩
    · by_cases second : b = 0xF4 <;> constructor <;> simp [first, second]

theorem Begun.InRange.continues {begun : Begun} (inRange : begun.InRange) {b : UInt8}
    (accepted : begun.accepts b = true) : Continues b := by
  have inside := accepts_iff.mp accepted
  exact ⟨Nat.le_trans inRange.low inside.1, Nat.le_trans inside.2 inRange.high⟩

namespace Scan

/-- The scanner after some bytes. -/
def scanned (bytes : List UInt8) : Scan := bytes.foldl step {}

theorem scanned_concat (bytes : List UInt8) (b : UInt8) :
    scanned (bytes ++ [b]) = (scanned bytes).step b := by
  simp [scanned]

theorem scanned_sound (bytes : List UInt8) : (scanned bytes).Sound :=
  List.foldlRecOn bytes step (by simp [Sound]) fun _ sound b _ => (step_read sound b).1

theorem scanned_read (bytes : List UInt8) : (scanned bytes).read = bytes := by
  rw [scanned, foldl_read (by simp [Sound])]
  rfl

/-- The character under way, if there is one, has room for its next byte. -/
def InRange (scan : Scan) : Prop := ∀ begun, scan.begun = some begun → begun.InRange

theorem start_inRange (found : List Piece) (b : UInt8) : (start found b).InRange := by
  intro begun underWay
  unfold start at underWay
  cases reads : Lead.ofByte b with
  | ascii c => simp [reads] at underWay
  | begins other =>
    simp only [reads, Option.some.injEq] at underWay
    exact underWay ▸ Begun.inRange_of_begins reads
  | invalid => simp [reads] at underWay

theorem step_inRange (scan : Scan) (b : UInt8) : (scan.step b).InRange := by
  intro begun underWay
  unfold step at underWay
  split at underWay
  next => exact start_inRange _ b begun underWay
  next before shape =>
    split at underWay
    next =>
      split at underWay
      next => cases underWay
      next =>
        cases underWay
        exact Begun.inRange_of_full rfl rfl
    next => exact start_inRange _ b begun underWay

theorem scanned_inRange (bytes : List UInt8) : (scanned bytes).InRange :=
  List.foldlRecOn bytes step (by simp [InRange]) fun scan _ b _ => scan.step_inRange b

/-! ## Pieces found before -/

/-- The same scan, with pieces found before it. -/
def behind (scan : Scan) (found : List Piece) : Scan := ⟨scan.found ++ found, scan.begun⟩

theorem start_behind (first found : List Piece) (b : UInt8) :
    start (first ++ found) b = (start first b).behind found := by
  unfold start
  cases Lead.ofByte b <;> rfl

theorem step_behind (scan : Scan) (found : List Piece) (b : UInt8) :
    (scan.behind found).step b = (scan.step b).behind found := by
  obtain ⟨first, begun⟩ := scan
  cases begun with
  | none => exact start_behind first found b
  | some begun =>
    by_cases accepted : begun.accepts b = true
    · by_cases last : begun.missing ≤ 1 <;> simp [step, behind, accepted, last]
    · have restarts := start_behind (.illFormed begun.bytes.reverse :: first) found b
      simpa [step, behind, accepted] using restarts

theorem foldl_behind (scan : Scan) (found : List Piece) (bytes : List UInt8) :
    bytes.foldl step (scan.behind found) = (bytes.foldl step scan).behind found := by
  induction bytes generalizing scan with
  | nil => rfl
  | cons b rest ih => rw [List.foldl_cons, step_behind, ih, List.foldl_cons]

theorem finish_behind (scan : Scan) (found : List Piece) :
    (scan.behind found).finish = found.reverse ++ scan.finish := by
  obtain ⟨first, begun⟩ := scan
  cases begun <;> simp [finish, behind]

/-- Where nothing goes on, a new piece begins. -/
theorem step_of_refused {scan : Scan} {b : UInt8}
    (refused : ∀ begun, scan.begun = some begun → begun.accepts b = false) :
    scan.step b = (step {} b).behind scan.finish.reverse := by
  obtain ⟨found, begun⟩ := scan
  cases begun with
  | none => simpa [step, finish] using start_behind [] found b
  | some begun =>
    have restarts := start_behind [] (.illFormed begun.bytes.reverse :: found) b
    simpa [step, finish, refused begun rfl] using restarts

end Scan

open Scan (scanned)

/-! ## Cuts -/

/-- Nothing that is under way after the first bytes goes on with the second. -/
def Breaks (before after : List UInt8) : Prop :=
  ∀ begun b, (scanned before).begun = some begun → after.head? = some b → begun.accepts b = false

theorem pieces_nil : pieces [] = [] := rfl

theorem pieces_append {before after : List UInt8} (breaks : Breaks before after) :
    pieces (before ++ after) = pieces before ++ pieces after := by
  cases after with
  | nil => rw [pieces_nil, List.append_nil, List.append_nil]
  | cons b rest =>
    have restarts := Scan.step_of_refused fun begun underWay => breaks begun b underWay rfl
    calc pieces (before ++ b :: rest)
        = (rest.foldl Scan.step ((scanned before).step b)).finish := by
          rw [pieces, List.foldl_append, List.foldl_cons, scanned]
      _ = (scanned before).finish.reverse.reverse ++
            (rest.foldl Scan.step (Scan.step {} b)).finish := by
          rw [restarts, Scan.foldl_behind, Scan.finish_behind]
      _ = pieces before ++ pieces (b :: rest) := by
          rw [List.reverse_reverse]
          rfl

theorem breaks_of_idle {before : List UInt8} (idle : (scanned before).begun = none)
    (after : List UInt8) : Breaks before after := by
  intro begun b underWay
  rw [idle] at underWay
  cases underWay

theorem scanned_encode (text : String) : (scanned (encode text)).begun = none := by
  rw [scanned, encode, Scan.foldl_encode]

theorem scanned_encodeChar (c : Char) : scanned (utf8EncodeChar c) = ⟨[.char c], none⟩ :=
  Scan.foldl_encodeChar [] c

theorem pieces_encodeChar (c : Char) (rest : List UInt8) :
    pieces (utf8EncodeChar c ++ rest) = .char c :: pieces rest := by
  have breaks := breaks_of_idle (by rw [scanned_encodeChar c]) rest
  have alone : pieces (utf8EncodeChar c) = [.char c] := by
    show (scanned (utf8EncodeChar c)).finish = _
    rw [scanned_encodeChar]
    rfl
  rw [pieces_append breaks, alone, List.singleton_append]

/-- No first byte of a character continues another one. -/
theorem not_continues_encodeChar {c : Char} {b : UInt8}
    (first : (utf8EncodeChar c).head? = some b) : ¬ Continues b := by
  rintro ⟨low, high⟩
  have valid := toNat_valid c
  rcases encodeChar_shape c with ⟨_, _, encoded, _⟩ | ⟨_, _, _, _, encoded, _, _⟩ |
    ⟨_, _, _, _, _, encoded, _, _, _⟩ | ⟨_, _, _, _, _, encoded, _, _, _, _⟩
  all_goals
    rw [encoded, List.head?_cons, Option.some.injEq] at first
    subst first
    omega

theorem breaks_encodeChar (before : List UInt8) (c : Char) (rest : List UInt8) :
    Breaks before (utf8EncodeChar c ++ rest) := by
  intro begun b underWay first
  rw [List.head?_append_of_ne_nil _ String.utf8EncodeChar_ne_nil] at first
  refine Bool.eq_false_iff.mpr fun accepted => not_continues_encodeChar first ?_
  exact (Scan.scanned_inRange before begun underWay).continues accepted

/-! ## Maximal subparts -/

/-- Bytes with which the encoding of some character begins. -/
def BeginsChar (bytes : List UInt8) : Prop := ∃ c, bytes <+: utf8EncodeChar c

/-- The maximal subpart in front of the rest, where no character stands: the longest front that
    begins a character, or one byte if there is no such front. -/
structure MaximalSubpart (part rest : List UInt8) : Prop where
  nonempty : part ≠ []
  illFormed : ∀ c, ¬ utf8EncodeChar c <+: part ++ rest
  begins : part.length = 1 ∨ BeginsChar part
  longest : ∀ longer, longer <+: part ++ rest → part.length < longer.length → ¬ BeginsChar longer

/-- A text shows bytes: every character that stands in them is shown, and every maximal subpart
    between the characters is shown as U+FFFD. -/
inductive Substituted : List UInt8 → List Char → Prop where
  | nil : Substituted [] []
  | char (c : Char) {rest : List UInt8} {text : List Char} (shown : Substituted rest text) :
      Substituted (utf8EncodeChar c ++ rest) (c :: text)
  | illFormed {part rest : List UInt8} {text : List Char} (subpart : MaximalSubpart part rest)
      (shown : Substituted rest text) : Substituted (part ++ rest) (replacement :: text)

theorem read_of_underWay {part : List UInt8} {begun : Begun}
    (underWay : scanned part = ⟨[], some begun⟩) : begun.bytes.reverse = part := by
  have whole := Scan.scanned_read part
  rwa [underWay] at whole

theorem beginsChar_of_underWay {part : List UInt8} {begun : Begun}
    (underWay : scanned part = ⟨[], some begun⟩) : BeginsChar part := by
  have spells : begun.Spells := Scan.scanned_sound part begun (by rw [underWay])
  have inRange : begun.InRange := Scan.scanned_inRange part begun (by rw [underWay])
  -- The lowest byte that may come next, and then as many of the lowest as are missing.
  have completed : begun.CompletedBy (begun.lowest :: List.replicate (begun.missing - 1) 0x80) := by
    refine ⟨_, _, rfl, Begun.accepts_iff.mpr ⟨Nat.le_refl _, inRange.ordered⟩, ?_, ?_⟩
    · rw [List.length_replicate]
      exact Nat.sub_add_cancel spells.unfinished
    · intro other member
      rw [List.eq_of_mem_replicate member]
      exact ⟨by decide, by decide⟩
  have encoded := spells.encodes _ completed
  rw [read_of_underWay underWay] at encoded
  exact ⟨_, _, encoded.symm⟩

theorem pieces_of_underWay {part : List UInt8} {begun : Begun}
    (underWay : scanned part = ⟨[], some begun⟩) : pieces part = [.illFormed part] := by
  show (scanned part).finish = _
  rw [underWay]
  simp [Scan.finish, read_of_underWay underWay]

theorem pieces_illFormed {part rest : List UInt8} (alone : pieces part = [.illFormed part])
    (breaks : Breaks part rest) : pieces (part ++ rest) = .illFormed part :: pieces rest := by
  rw [pieces_append breaks, alone, List.singleton_append]

/-- A front that is cut off as ill-formed is a maximal subpart, since a character found there, or
    one that begins with a longer front, would have been cut out by the scanner. -/
theorem maximalSubpart_of_breaks {part rest : List UInt8} (breaks : Breaks part rest)
    (alone : pieces part = [.illFormed part]) (begins : part.length = 1 ∨ BeginsChar part) :
    MaximalSubpart part rest := by
  refine ⟨?_, ?_, begins, ?_⟩
  · rintro rfl
    cases alone
  · rintro c ⟨other, encoded⟩
    have clash := pieces_illFormed alone breaks
    rw [← encoded, pieces_encodeChar] at clash
    cases clash
  · rintro longer front longerThan ⟨c, other, encoded⟩
    obtain ⟨more, rfl⟩ : part <+: longer :=
      List.prefix_of_prefix_length_le (List.prefix_append part rest) front
        (Nat.le_of_lt longerThan)
    have more_ne : more ≠ [] := by
      rintro rfl
      simp at longerThan
    have same : (more ++ other).head? = rest.head? := by
      obtain ⟨tail, rfl⟩ := (List.prefix_append_right_inj part).mp front
      rw [List.head?_append_of_ne_nil _ more_ne, List.head?_append_of_ne_nil _ more_ne]
    have clash : pieces (part ++ (more ++ other)) = _ :=
      pieces_illFormed alone fun begun b underWay first => breaks begun b underWay (same ▸ first)
    have whole := pieces_encodeChar c []
    rw [List.append_nil, ← encoded, List.append_assoc, clash] at whole
    cases whole

/-- What can come of a character under way: it is completed, or it breaks off somewhere. -/
theorem underWay_cases {part : List UInt8} {begun : Begun}
    (underWay : scanned part = ⟨[], some begun⟩) (rest : List UInt8) :
    (∃ c other, part ++ rest = utf8EncodeChar c ++ other) ∨
      ∃ more other, rest = more ++ other ∧ Breaks (part ++ more) other ∧
        pieces (part ++ more) = [.illFormed (part ++ more)] ∧ BeginsChar (part ++ more) := by
  induction rest generalizing part begun with
  | nil =>
    refine .inr ⟨[], [], rfl, fun _ _ _ first => (by cases first), ?_, ?_⟩
    · rw [List.append_nil, pieces_of_underWay underWay]
    · rw [List.append_nil]
      exact beginsChar_of_underWay underWay
  | cons b rest ih =>
    by_cases accepted : begun.accepts b = true
    · have steps : scanned (part ++ [b]) = Scan.step ⟨[], some begun⟩ b := by
        rw [Scan.scanned_concat, underWay]
      by_cases last : begun.missing ≤ 1
      · -- The byte completes the character.
        have spells : begun.Spells := Scan.scanned_sound part begun (by rw [underWay])
        have encoded := spells.complete accepted last
        rw [read_of_underWay underWay] at encoded
        refine .inl ⟨Char.ofNat (begun.extend b), rest, ?_⟩
        rw [encoded, List.append_assoc, List.singleton_append]
      · have goesOn : scanned (part ++ [b]) = ⟨[], some (begun.next b)⟩ := by
          rw [steps]
          simp [Scan.step, accepted, last, Begun.next]
        rcases ih goesOn with ⟨c, other, completed⟩ | ⟨more, other, split, broken⟩
        · refine .inl ⟨c, other, ?_⟩
          rw [← completed, List.append_assoc, List.singleton_append]
        · refine .inr ⟨b :: more, other, by rw [split, List.cons_append], ?_⟩
          rwa [List.append_assoc, List.singleton_append] at broken
    · refine .inr ⟨[], b :: rest, rfl, ?_, ?_, ?_⟩
      · intro other first found same
        rw [List.append_nil, underWay] at found
        cases found
        cases same
        exact Bool.eq_false_iff.mpr accepted
      · rw [List.append_nil, pieces_of_underWay underWay]
      · rw [List.append_nil]
        exact beginsChar_of_underWay underWay

/-- What stands in front: a character or a maximal subpart. -/
theorem front_cases {bytes : List UInt8} (nonempty : bytes ≠ []) :
    (∃ c rest, bytes = utf8EncodeChar c ++ rest) ∨
      ∃ part rest, bytes = part ++ rest ∧ MaximalSubpart part rest ∧
        pieces bytes = .illFormed part :: pieces rest := by
  obtain ⟨b, rest, rfl⟩ := List.exists_cons_of_ne_nil nonempty
  cases reads : Lead.ofByte b with
  | ascii c =>
    refine .inl ⟨c, rest, ?_⟩
    rw [encodeChar_of_ascii reads, List.singleton_append]
  | begins begun =>
    have underWay : scanned [b] = ⟨[], some begun⟩ := by
      simp [scanned, Scan.step, Scan.start, reads]
    rcases underWay_cases underWay rest with completed | ⟨more, other, rfl, breaks, alone, begins⟩
    · exact .inl completed
    · refine .inr ⟨b :: more, other, rfl, ?_, ?_⟩
      · exact maximalSubpart_of_breaks breaks alone (.inr begins)
      · exact pieces_illFormed alone breaks
  | invalid =>
    have single : scanned [b] = ⟨[.illFormed [b]], none⟩ := by
      simp [scanned, Scan.step, Scan.start, reads]
    have breaks : Breaks [b] rest := breaks_of_idle (by rw [single]) rest
    have alone : pieces [b] = [.illFormed [b]] := by
      show (scanned [b]).finish = _
      rw [single]
      rfl
    refine .inr ⟨[b], rest, rfl, ?_, ?_⟩
    · exact maximalSubpart_of_breaks breaks alone (.inl rfl)
    · exact pieces_illFormed alone breaks

-- A truncated character is one part, and the bytes of a surrogate are one part each.
example : (pieces [0xF0, 0x9F, 0x98, 0x41, 0xED, 0xA0]).map Piece.bytes =
    [[0xF0, 0x9F, 0x98], [0x41], [0xED], [0xA0]] := by decide

theorem substituted_pieces (bytes : List UInt8) :
    Substituted bytes ((pieces bytes).map Piece.shown) := by
  induction size : bytes.length using Nat.strongRecOn generalizing bytes with
  | _ n ih =>
    by_cases empty : bytes = []
    · subst empty
      exact .nil
    · rcases front_cases empty with ⟨c, rest, rfl⟩ | ⟨part, rest, rfl, subpart, cut⟩
      · have shorter : rest.length < n := by
          have some := List.length_pos_iff.mpr (String.utf8EncodeChar_ne_nil (c := c))
          rw [List.length_append] at size
          omega
        rw [pieces_encodeChar]
        exact .char c (ih _ shorter rest rfl)
      · have shorter : rest.length < n := by
          have some := List.length_pos_iff.mpr subpart.nonempty
          rw [List.length_append] at size
          omega
        rw [cut]
        exact .illFormed subpart (ih _ shorter rest rfl)

/-- There is one maximal subpart in front of a byte string. -/
theorem MaximalSubpart.unique {part rest other others : List UInt8}
    (first : MaximalSubpart part rest) (second : MaximalSubpart other others)
    (same : part ++ rest = other ++ others) : part = other ∧ rest = others := by
  have noLonger {part rest other others : List UInt8} (first : MaximalSubpart part rest)
      (second : MaximalSubpart other others) (same : part ++ rest = other ++ others) :
      other.length ≤ part.length := by
    by_contra longer
    have front : other <+: part ++ rest := same ▸ List.prefix_append other others
    rcases second.begins with single | begins
    · exact first.nonempty (List.length_eq_zero_iff.mp (by omega))
    · exact first.longest other front (by omega) begins
  exact List.append_inj same (Nat.le_antisymm (noLonger second first same.symm)
    (noLonger first second same))

theorem Substituted.unique {bytes : List UInt8} {text other : List Char}
    (first : Substituted bytes text) (second : Substituted bytes other) : text = other := by
  induction first generalizing other with
  | nil =>
    generalize empty : ([] : List UInt8) = bytes at second
    cases second with
    | nil => rfl
    | char c => exact absurd (List.append_eq_nil_iff.mp empty.symm).1 String.utf8EncodeChar_ne_nil
    | illFormed subpart => exact absurd (List.append_eq_nil_iff.mp empty.symm).1 subpart.nonempty
  | @char c rest text shown ih =>
    generalize same : utf8EncodeChar c ++ rest = bytes at second
    cases second with
    | nil => exact absurd (List.append_eq_nil_iff.mp same).1 String.utf8EncodeChar_ne_nil
    | @char d others _ shown =>
      have cut := congrArg pieces same
      rw [pieces_encodeChar, pieces_encodeChar] at cut
      obtain rfl : c = d := Piece.char.inj (List.cons.inj cut).1
      obtain rfl : rest = others := List.append_cancel_left same
      rw [ih shown]
    | illFormed subpart => exact absurd ⟨rest, same⟩ (subpart.illFormed c)
  | @illFormed part rest text subpart shown ih =>
    generalize same : part ++ rest = bytes at second
    cases second with
    | nil => exact absurd (List.append_eq_nil_iff.mp same).1 subpart.nonempty
    | char c => exact absurd ⟨_, same.symm⟩ (subpart.illFormed c)
    | illFormed other shown =>
      obtain ⟨-, rfl⟩ := subpart.unique other same
      rw [ih shown]

theorem substituted_iff {bytes : List UInt8} {text : List Char} :
    Substituted bytes text ↔ (decodeLossy bytes).toList = text := by
  have shows : Substituted bytes (decodeLossy bytes).toList := by
    rw [decodeLossy, String.toList_ofList]
    exact substituted_pieces bytes
  constructor
  · exact shows.unique
  · rintro rfl
    exact shows

/-! ## Text between bytes -/

theorem decodeLossy_append {before after : List UInt8} (breaks : Breaks before after) :
    decodeLossy (before ++ after) = decodeLossy before ++ decodeLossy after := by
  rw [decodeLossy, pieces_append breaks, List.map_append, String.ofList_append]
  rfl

/-- Whatever stands before and behind it, encoded text is shown as it is, and what stands there
    is shown as if the text were not there. -/
theorem decodeLossy_barrier {text : String} (nonempty : text ≠ "") (before after : List UInt8) :
    decodeLossy (before ++ encode text ++ after) =
      decodeLossy before ++ text ++ decodeLossy after := by
  have opens : Breaks before (encode text ++ after) := by
    obtain ⟨c, chars, shape⟩ : ∃ c chars, text.toList = c :: chars :=
      List.exists_cons_of_ne_nil (by simpa using nonempty)
    rw [encode, shape, List.flatMap_cons, List.append_assoc]
    exact breaks_encodeChar before c _
  rw [List.append_assoc, decodeLossy_append opens,
    decodeLossy_append (breaks_of_idle (scanned_encode text) after), decodeLossy_encode,
    String.append_assoc]

theorem decodeLossy_ne_empty {bytes : List UInt8} (nonempty : bytes ≠ []) :
    decodeLossy bytes ≠ "" := by
  intro empty
  have none : pieces bytes = [] := by simpa [decodeLossy, ← String.toList_inj] using empty
  have whole := flatMap_bytes_pieces bytes
  rw [none] at whole
  exact nonempty whole.symm

open Text (lineFeed rows)

/-- A character below `80` is shown only where its byte is. -/
theorem mem_of_decodeLossy {bytes : List UInt8} {b : UInt8} {c : Char} (ascii : b.toNat < 0x80)
    (same : c.toNat = b.toNat) (member : c ∈ (decodeLossy bytes).toList) : b ∈ bytes := by
  rw [decodeLossy, String.toList_ofList, List.mem_map] at member
  obtain ⟨piece, found, shown⟩ := member
  cases piece with
  | illFormed part =>
    obtain rfl : replacement = c := shown
    have high : replacement.toNat = 0xFFFD := by decide
    omega
  | char d =>
    obtain rfl : d = c := shown
    rw [← flatMap_bytes_pieces bytes, List.mem_flatMap]
    exact ⟨_, found, (mem_encodeChar ascii).mpr same⟩

theorem lineFeed_mem_of_decodeLossy {bytes : List UInt8}
    (member : '\n' ∈ (decodeLossy bytes).toList) : lineFeed ∈ bytes :=
  mem_of_decodeLossy (by decide) rfl member

/-- Cutting at the line feeds and showing can change places. -/
theorem splitOn_decodeLossy (bytes : List UInt8) :
    (decodeLossy bytes).toList.splitOn '\n' =
      (rows bytes).map fun row => (decodeLossy row).toList := by
  have unbrokenText {row : List UInt8} (unbroken : lineFeed ∉ row) :
      '\n' ∉ (decodeLossy row).toList := fun member => unbroken (lineFeed_mem_of_decodeLossy member)
  induction bytes using Text.rows_induction with
  | single row unbroken =>
    rw [Text.rows_of_unbroken unbroken, List.splitOn_eq_singleton (unbrokenText unbroken)]
    rfl
  | cons row rest unbroken ih =>
    -- The line feed is a text, so it separates what is shown of the two sides.
    have shown : decodeLossy (row ++ lineFeed :: rest) =
        decodeLossy row ++ "\n" ++ decodeLossy rest := by
      have barrier := @decodeLossy_barrier "\n" (by decide) row rest
      rwa [List.append_assoc] at barrier
    rw [Text.rows_cons unbroken, List.map_cons, ← ih, shown, String.toList_append,
      String.toList_append, List.append_assoc]
    exact List.splitOn_append_cons_self_of_not_mem (unbrokenText unbroken) _

theorem encode_decodeLossy_iff {bytes : List UInt8} :
    encode (decodeLossy bytes) = bytes ↔ bytes.toByteArray.IsValidUTF8 := by
  constructor
  · intro same
    refine ⟨(decodeLossy bytes).toList, ?_⟩
    rw [List.utf8Encode]
    exact congrArg List.toByteArray same.symm
  · rintro ⟨chars, same⟩
    have spelt : bytes = encode (String.ofList chars) := by
      rw [encode_ofList]
      simpa [List.utf8Encode] using congrArg (·.data.toList) same
    rw [spelt, decodeLossy_encode]

/-! ## Captured text -/

/-- What holds of a way to show bytes that keeps all text there is and replaces the rest. -/
structure ShowsLossily (shown : List UInt8 → String) : Prop where
  /-- Text is shown as it is, whatever bytes stand before and behind it, and they are shown as
      they would be without it. -/
  barrier : ∀ before text after, text ≠ "" →
    shown (before ++ encode text ++ after) = shown before ++ text ++ shown after
  unchanged : ∀ text, shown (encode text) = text
  /-- Bytes can be cut at the line feeds before they are shown. -/
  byRows : ∀ bytes, (shown bytes).toList.splitOn '\n' =
    (rows bytes).map fun row => (shown row).toList
  nonempty : ∀ bytes, bytes ≠ [] → shown bytes ≠ ""
  faithful : ∀ bytes, encode (shown bytes) = bytes ↔ bytes.toByteArray.IsValidUTF8
  /-- There is one U+FFFD for each maximal subpart, and no other. -/
  substitutes : ∀ bytes text, Substituted bytes text ↔ (shown bytes).toList = text

theorem decodeLossy_showsLossily : ShowsLossily decodeLossy where
  barrier before _ after nonempty := decodeLossy_barrier nonempty before after
  unchanged := decodeLossy_encode
  byRows := splitOn_decodeLossy
  nonempty _ := decodeLossy_ne_empty
  faithful _ := encode_decodeLossy_iff
  substitutes _ _ := substituted_iff

end Conformance.Utf8

namespace Conformance.Invocation

/-- Both outputs of a subject are shown with all the text there is in them. -/
theorem capturedText_showsLossily (invocation : Invocation) :
    Utf8.ShowsLossily (fun bytes => { invocation with stdout := bytes }.stdoutText) ∧
      Utf8.ShowsLossily (fun bytes => { invocation with stderr := bytes }.stderrText) :=
  ⟨Utf8.decodeLossy_showsLossily, Utf8.decodeLossy_showsLossily⟩

end Conformance.Invocation
