import Conformance.Text.Utf8
import Mathlib.Order.Basic

/-! # Reading UTF-8 back

The scanner cuts a byte string into pieces, and nothing is lost on the way: the bytes of the
pieces, one after the other, are the bytes that were read.  A character is cut out exactly
where its encoding stands, so the byte strings without an ill-formed part are the encodings
of texts (`decode?_eq_some_iff`).

What carries the argument is `Begun.Spells`.  It holds of every character that the scanner
can have under way, and says that the bytes read so far begin the encoding of whatever
character they will turn out to be.

Encoding also respects the order of code points, and bytes below `80` stand for themselves,
so lines and identifiers can be told apart in the bytes as well as in the text.
-/

namespace Conformance.Utf8

open String (utf8EncodeChar)

/-! ## Encoded characters -/

/-- A byte that continues a character. -/
def Continues (b : UInt8) : Prop := 0x80 ≤ b.toNat ∧ b.toNat ≤ 0xBF

/-- The bits of a code point after a continuation byte. -/
def withByte (bits : Nat) (b : UInt8) : Nat := bits * 64 + (b.toNat - 0x80)

theorem val_ofNat {n : Nat} (valid : n < 0xD800 ∨ 0xDFFF < n ∧ n < 0x110000) :
    (Char.ofNat n).val.toNat = n := by
  have isValid : n.isValidChar := valid
  rw [Char.ofNat, dif_pos isValid]
  rfl

theorem ofNat_eq_of_toNat {n : Nat} {b : UInt8} (same : n = b.toNat) : UInt8.ofNat n = b := by
  rw [same, UInt8.ofNat_toNat]

section Shapes

variable {b x y z : UInt8}

theorem encodeChar_two (low : 0xC2 ≤ b.toNat) (high : b.toNat < 0xE0) (hx : Continues x) :
    utf8EncodeChar (Char.ofNat (withByte (b.toNat - 0xC0) x)) = [b, x] := by
  unfold Continues at hx
  unfold withByte utf8EncodeChar
  rw [val_ofNat (by omega), if_neg (by omega), if_pos (by omega),
    ofNat_eq_of_toNat (b := b) (by omega), ofNat_eq_of_toNat (b := x) (by omega)]

theorem encodeChar_three (low : 0xE0 ≤ b.toNat) (high : b.toNat < 0xF0)
    (hx : Continues x) (hy : Continues y)
    (notOverlong : b = 0xE0 → 0xA0 ≤ x.toNat) (notSurrogate : b = 0xED → x.toNat ≤ 0x9F) :
    utf8EncodeChar (Char.ofNat (withByte (withByte (b.toNat - 0xE0) x) y)) = [b, x, y] := by
  unfold Continues at hx hy
  simp only [← UInt8.toNat_inj, UInt8.reduceToNat] at notOverlong notSurrogate
  unfold withByte utf8EncodeChar
  rw [val_ofNat (by omega), if_neg (by omega), if_neg (by omega), if_pos (by omega),
    ofNat_eq_of_toNat (b := b) (by omega), ofNat_eq_of_toNat (b := x) (by omega),
    ofNat_eq_of_toNat (b := y) (by omega)]

theorem encodeChar_four (low : 0xF0 ≤ b.toNat) (high : b.toNat < 0xF5)
    (hx : Continues x) (hy : Continues y) (hz : Continues z)
    (notOverlong : b = 0xF0 → 0x90 ≤ x.toNat) (notTooLarge : b = 0xF4 → x.toNat ≤ 0x8F) :
    utf8EncodeChar (Char.ofNat (withByte (withByte (withByte (b.toNat - 0xF0) x) y) z)) =
      [b, x, y, z] := by
  unfold Continues at hx hy hz
  simp only [← UInt8.toNat_inj, UInt8.reduceToNat] at notOverlong notTooLarge
  unfold withByte utf8EncodeChar
  rw [val_ofNat (by omega), if_neg (by omega), if_neg (by omega), if_neg (by omega),
    ofNat_eq_of_toNat (b := b) (by omega), ofNat_eq_of_toNat (b := x) (by omega),
    ofNat_eq_of_toNat (b := y) (by omega), ofNat_eq_of_toNat (b := z) (by omega)]

end Shapes

/-! ## Characters under way -/

namespace Begun

/-- Bytes that complete the character under way: the next lies in the range that is left to
    it, and the others continue a character. -/
def CompletedBy (begun : Begun) (tail : List UInt8) : Prop :=
  ∃ b rest, tail = b :: rest ∧ begun.accepts b = true ∧ rest.length + 1 = begun.missing ∧
    ∀ other ∈ rest, Continues other

/-- The code point that the bits read so far and further bytes make. -/
def codePoint (begun : Begun) (tail : List UInt8) : Nat := tail.foldl withByte begun.bits

/-- Some byte is missing and, however the character under way is completed, its encoding is
    the bytes read so far and those that complete it. -/
structure Spells (begun : Begun) : Prop where
  unfinished : 0 < begun.missing
  encodes : ∀ tail, begun.CompletedBy tail →
    utf8EncodeChar (Char.ofNat (begun.codePoint tail)) = begun.bytes.reverse ++ tail

theorem accepts_iff {begun : Begun} {b : UInt8} :
    begun.accepts b = true ↔ begun.lowest.toNat ≤ b.toNat ∧ b.toNat ≤ begun.highest.toNat := by
  simp [accepts, UInt8.le_iff_toNat_le]

/-- The character under way after one more byte, if it is not complete then. -/
def next (begun : Begun) (b : UInt8) : Begun :=
  ⟨b :: begun.bytes, begun.extend b, begun.missing - 1, 0x80, 0xBF⟩

theorem next_accepts {begun : Begun} {b other : UInt8} :
    (begun.next b).accepts other = true ↔ Continues other := by
  rw [accepts_iff]
  rfl

theorem CompletedBy.cons {begun : Begun} {b : UInt8} {tail : List UInt8}
    (accepted : begun.accepts b = true) (completed : (begun.next b).CompletedBy tail) :
    begun.CompletedBy (b :: tail) := by
  obtain ⟨other, rest, rfl, continues, count, others⟩ := completed
  refine ⟨b, other :: rest, rfl, accepted, ?_, ?_⟩
  · have missing : rest.length + 1 = begun.missing - 1 := count
    rw [List.length_cons]
    omega
  · intro byte member
    rcases List.mem_cons.mp member with rfl | member
    · exact next_accepts.mp continues
    · exact others byte member

theorem extend_eq (begun : Begun) (b : UInt8) : begun.extend b = withByte begun.bits b := rfl

theorem next_codePoint (begun : Begun) (b : UInt8) (tail : List UInt8) :
    (begun.next b).codePoint tail = begun.codePoint (b :: tail) := by
  have bits : (begun.next b).bits = withByte begun.bits b := begun.extend_eq b
  rw [codePoint, codePoint, bits, List.foldl_cons]

theorem Spells.next {begun : Begun} (spells : begun.Spells) {b : UInt8}
    (accepted : begun.accepts b = true) (more : 1 < begun.missing) : (begun.next b).Spells := by
  refine ⟨Nat.sub_pos_of_lt more, ?_⟩
  intro tail completed
  rw [next_codePoint, spells.encodes (b :: tail) (completed.cons accepted)]
  simp [Begun.next]

theorem Spells.complete {begun : Begun} (spells : begun.Spells) {b : UInt8}
    (accepted : begun.accepts b = true) (last : begun.missing ≤ 1) :
    utf8EncodeChar (Char.ofNat (begun.extend b)) = begun.bytes.reverse ++ [b] := by
  have same : begun.extend b = begun.codePoint [b] := rfl
  have count : 1 = begun.missing := Nat.le_antisymm spells.unfinished last
  rw [same]
  exact spells.encodes [b] ⟨b, [], rfl, accepted, count, by simp⟩

end Begun

/-- What a first byte can announce, with the range of the byte in each case. -/
theorem Lead.ofByte_cases (b : UInt8) :
    (b.toNat < 0x80 ∧ Lead.ofByte b = .ascii (Char.ofNat b.toNat)) ∨
    (0xC2 ≤ b.toNat ∧ b.toNat < 0xE0 ∧
      Lead.ofByte b = .begins ⟨[b], b.toNat - 0xC0, 1, 0x80, 0xBF⟩) ∨
    (0xE0 ≤ b.toNat ∧ b.toNat < 0xF0 ∧
      Lead.ofByte b = .begins ⟨[b], b.toNat - 0xE0, 2,
        if b = 0xE0 then 0xA0 else 0x80, if b = 0xED then 0x9F else 0xBF⟩) ∨
    (0xF0 ≤ b.toNat ∧ b.toNat < 0xF5 ∧
      Lead.ofByte b = .begins ⟨[b], b.toNat - 0xF0, 3,
        if b = 0xF0 then 0x90 else 0x80, if b = 0xF4 then 0x8F else 0xBF⟩) ∨
    ((0x80 ≤ b.toNat ∧ b.toNat < 0xC2 ∨ 0xF5 ≤ b.toNat) ∧ Lead.ofByte b = .invalid) := by
  simp only [Lead.ofByte, UInt8.lt_iff_toNat_lt, UInt8.reduceToNat]
  have ranges : b.toNat < 0x80 ∨ 0x80 ≤ b.toNat ∧ b.toNat < 0xC2 ∨
      0xC2 ≤ b.toNat ∧ b.toNat < 0xE0 ∨ 0xE0 ≤ b.toNat ∧ b.toNat < 0xF0 ∨
      0xF0 ≤ b.toNat ∧ b.toNat < 0xF5 ∨ 0xF5 ≤ b.toNat := by omega
  rcases ranges with ascii | ⟨low, high⟩ | ⟨low, high⟩ | ⟨low, high⟩ | ⟨low, high⟩ | low
  · exact .inl ⟨ascii, if_pos ascii⟩
  · refine .inr (.inr (.inr (.inr ⟨.inl ⟨low, high⟩, ?_⟩)))
    rw [if_neg (by omega), if_pos high]
  · refine .inr (.inl ⟨low, high, ?_⟩)
    rw [if_neg (by omega), if_neg (by omega), if_pos high]
  · refine .inr (.inr (.inl ⟨low, high, ?_⟩))
    rw [if_neg (by omega), if_neg (by omega), if_neg (by omega), if_pos high]
  · refine .inr (.inr (.inr (.inl ⟨low, high, ?_⟩)))
    rw [if_neg (by omega), if_neg (by omega), if_neg (by omega), if_neg (by omega), if_pos high]
  · refine .inr (.inr (.inr (.inr ⟨.inr low, ?_⟩)))
    rw [if_neg (by omega), if_neg (by omega), if_neg (by omega), if_neg (by omega),
      if_neg (by omega)]

/-- A second byte in a range that is narrowed after certain first bytes. -/
theorem continues_of_narrowed {b x low high first second : UInt8} (lowIn : 0x80 ≤ low.toNat)
    (highIn : high.toNat ≤ 0xBF)
    (inside : (if b = first then low else 0x80).toNat ≤ x.toNat ∧
      x.toNat ≤ (if b = second then high else 0xBF).toNat) :
    Continues x ∧ (b = first → low.toNat ≤ x.toNat) ∧ (b = second → x.toNat ≤ high.toNat) := by
  obtain ⟨above, below⟩ := inside
  refine ⟨⟨?_, ?_⟩, ?_, ?_⟩
  · split at above
    · omega
    · exact above
  · split at below
    · omega
    · exact below
  · intro isFirst
    rwa [if_pos isFirst] at above
  · intro isSecond
    rwa [if_pos isSecond] at below

/-- Whatever character a first byte begins, the byte begins its encoding. -/
theorem Begun.spells_of_begins {b : UInt8} {begun : Begun}
    (begins : Lead.ofByte b = .begins begun) : begun.Spells := by
  rcases Lead.ofByte_cases b with ⟨-, reads⟩ | ⟨low, high, reads⟩ | ⟨low, high, reads⟩ |
    ⟨low, high, reads⟩ | ⟨-, reads⟩
  · rw [reads] at begins
    cases begins
  · rw [reads] at begins
    cases begins
    refine ⟨Nat.one_pos, ?_⟩
    rintro tail ⟨x, rest, rfl, accepted, count, -⟩
    obtain rfl : rest = [] := by simpa using count
    exact encodeChar_two low high (Begun.accepts_iff.mp accepted)
  · rw [reads] at begins
    cases begins
    refine ⟨Nat.two_pos, ?_⟩
    rintro tail ⟨x, rest, rfl, accepted, count, others⟩
    obtain ⟨y, rfl⟩ : ∃ y, rest = [y] := by simpa [List.length_eq_one_iff] using count
    obtain ⟨hx, notOverlong, notSurrogate⟩ :=
      continues_of_narrowed (by decide) (by decide) (Begun.accepts_iff.mp accepted)
    exact encodeChar_three low high hx (others y (by simp)) notOverlong notSurrogate
  · rw [reads] at begins
    cases begins
    refine ⟨Nat.succ_pos 2, ?_⟩
    rintro tail ⟨x, rest, rfl, accepted, count, others⟩
    obtain ⟨y, z, rfl⟩ : ∃ y z, rest = [y, z] := by
      match rest, count with
      | [y, z], _ => exact ⟨y, z, rfl⟩
    obtain ⟨hx, notOverlong, notTooLarge⟩ :=
      continues_of_narrowed (by decide) (by decide) (Begun.accepts_iff.mp accepted)
    exact encodeChar_four low high hx (others y (by simp)) (others z (by simp)) notOverlong
      notTooLarge
  · rw [reads] at begins
    cases begins

theorem Begun.bytes_of_begins {b : UInt8} {begun : Begun}
    (begins : Lead.ofByte b = .begins begun) : begun.bytes = [b] := by
  rcases Lead.ofByte_cases b with ⟨-, reads⟩ | ⟨-, -, reads⟩ | ⟨-, -, reads⟩ |
    ⟨-, -, reads⟩ | ⟨-, reads⟩ <;> rw [reads] at begins <;> cases begins <;> rfl

theorem encodeChar_of_ascii {b : UInt8} {c : Char} (ascii : Lead.ofByte b = .ascii c) :
    utf8EncodeChar c = [b] := by
  rcases Lead.ofByte_cases b with ⟨low, reads⟩ | ⟨-, -, reads⟩ | ⟨-, -, reads⟩ |
    ⟨-, -, reads⟩ | ⟨-, reads⟩ <;> rw [reads] at ascii <;> cases ascii
  unfold utf8EncodeChar
  rw [val_ofNat (by omega), if_pos (by omega), UInt8.ofNat_toNat]

/-! ## Nothing is lost -/

/-- The bytes a piece was cut from. -/
def Piece.bytes : Piece → List UInt8
  | .char c => utf8EncodeChar c
  | .illFormed bytes => bytes

namespace Scan

/-- The bytes read so far. -/
def read (scan : Scan) : List UInt8 :=
  scan.found.reverse.flatMap Piece.bytes ++
    match scan.begun with
    | none => []
    | some begun => begun.bytes.reverse

/-- The character under way, if there is one, is one that can be. -/
def Sound (scan : Scan) : Prop := ∀ begun, scan.begun = some begun → begun.Spells

theorem start_read (found : List Piece) (b : UInt8) :
    (start found b).Sound ∧
      (start found b).read = found.reverse.flatMap Piece.bytes ++ [b] := by
  unfold start
  cases reads : Lead.ofByte b with
  | ascii c =>
    refine ⟨by simp [Sound], ?_⟩
    simp [read, Piece.bytes, encodeChar_of_ascii reads]
  | begins begun =>
    refine ⟨?_, ?_⟩
    · intro other underWay
      cases underWay
      exact Begun.spells_of_begins reads
    · simp [read, Begun.bytes_of_begins reads]
  | invalid =>
    refine ⟨by simp [Sound], ?_⟩
    simp [read, Piece.bytes]

/-- Every byte is kept, and whatever is under way stays one that can be. -/
theorem step_read {scan : Scan} (sound : scan.Sound) (b : UInt8) :
    (scan.step b).Sound ∧ (scan.step b).read = scan.read ++ [b] := by
  obtain ⟨found, begun⟩ := scan
  cases begun with
  | none =>
    obtain ⟨stays, reads⟩ := start_read found b
    exact ⟨stays, reads.trans (by simp [read])⟩
  | some begun =>
    have spells : begun.Spells := sound begun rfl
    by_cases accepted : begun.accepts b = true
    · by_cases last : begun.missing ≤ 1
      · have encoded := spells.complete accepted last
        simp only [step, accepted, last, if_true]
        refine ⟨by simp [Sound], ?_⟩
        simp only [read, List.reverse_cons, List.flatMap_append, List.flatMap_singleton,
          Piece.bytes, encoded, List.append_assoc, List.append_nil]
      · have more : (begun.next b).Spells := spells.next accepted (by omega)
        simp only [step, accepted, last, if_true, if_false]
        refine ⟨?_, ?_⟩
        · intro other underWay
          cases underWay
          exact more
        · simp [read]
    · -- The character under way is broken off here, and the byte begins another piece.
      obtain ⟨stays, reads⟩ := start_read (.illFormed begun.bytes.reverse :: found) b
      have restarts : step ⟨found, some begun⟩ b =
          start (.illFormed begun.bytes.reverse :: found) b := by
        simp [step, accepted]
      rw [restarts]
      exact ⟨stays, reads.trans (by simp [read, Piece.bytes])⟩

theorem foldl_read {scan : Scan} (sound : scan.Sound) (bytes : List UInt8) :
    (bytes.foldl step scan).read = scan.read ++ bytes := by
  induction bytes generalizing scan with
  | nil => simp
  | cons b rest ih =>
    obtain ⟨stays, reads⟩ := step_read sound b
    rw [List.foldl_cons, ih stays, reads, List.append_assoc, List.singleton_append]

theorem finish_bytes (scan : Scan) : scan.finish.flatMap Piece.bytes = scan.read := by
  obtain ⟨found, begun⟩ := scan
  cases begun <;> simp [finish, read, Piece.bytes]

end Scan

/-- The bytes of the pieces are the bytes that were cut. -/
theorem flatMap_bytes_pieces (bytes : List UInt8) :
    (pieces bytes).flatMap Piece.bytes = bytes := by
  rw [pieces, Scan.finish_bytes, Scan.foldl_read (by simp [Scan.Sound])]
  rfl

/-! ## Texts are read back -/

@[simp] theorem encode_empty : encode "" = [] := rfl

@[simp] theorem encode_append (first second : String) :
    encode (first ++ second) = encode first ++ encode second := by
  simp [encode]

theorem encode_ofList (chars : List Char) :
    encode (String.ofList chars) = chars.flatMap utf8EncodeChar := by
  simp [encode]

theorem encode_decodeLossy {bytes : List UInt8} (valid : isValid bytes = true) :
    encode (decodeLossy bytes) = bytes := by
  have shown : ∀ piece ∈ pieces bytes, utf8EncodeChar piece.shown = piece.bytes := by
    intro piece member
    have isChar := List.all_eq_true.mp valid piece member
    cases piece with
    | char c => rfl
    | illFormed part => cases isChar
  calc encode (decodeLossy bytes)
      = (pieces bytes).flatMap fun piece => utf8EncodeChar piece.shown := by
        rw [decodeLossy, encode_ofList, List.flatMap_map]
    _ = (pieces bytes).flatMap Piece.bytes := by
        rw [List.flatMap_def, List.flatMap_def, List.map_congr_left shown]
    _ = bytes := flatMap_bytes_pieces bytes

theorem toNat_ofNat_eq {n m : Nat} (same : n = m) (small : m < 256) :
    (UInt8.ofNat n).toNat = m := by
  rw [same, UInt8.toNat_ofNat', Nat.mod_eq_of_lt small]

theorem toNat_valid (c : Char) : c.toNat < 0xD800 ∨ 0xDFFF < c.toNat ∧ c.toNat < 0x110000 :=
  c.valid

/-- The bytes of a character in numbers, by the size of its code point. -/
theorem encodeChar_shape (c : Char) :
    (c.toNat < 0x80 ∧ ∃ b, utf8EncodeChar c = [b] ∧ b.toNat = c.toNat) ∨
    (0x80 ≤ c.toNat ∧ c.toNat < 0x800 ∧ ∃ b x, utf8EncodeChar c = [b, x] ∧
      b.toNat = c.toNat / 64 + 0xC0 ∧ x.toNat = c.toNat % 64 + 0x80) ∨
    (0x800 ≤ c.toNat ∧ c.toNat < 0x10000 ∧ ∃ b x y, utf8EncodeChar c = [b, x, y] ∧
      b.toNat = c.toNat / 4096 + 0xE0 ∧ x.toNat = c.toNat / 64 % 64 + 0x80 ∧
      y.toNat = c.toNat % 64 + 0x80) ∨
    (0x10000 ≤ c.toNat ∧ ∃ b x y z, utf8EncodeChar c = [b, x, y, z] ∧
      b.toNat = c.toNat / 262144 + 0xF0 ∧ x.toNat = c.toNat / 4096 % 64 + 0x80 ∧
      y.toNat = c.toNat / 64 % 64 + 0x80 ∧ z.toNat = c.toNat % 64 + 0x80) := by
  have valid := toNat_valid c
  have encoded := String.utf8EncodeChar.eq_1 c
  simp only [Char.toNat_val] at encoded
  rw [encoded]
  by_cases one : c.toNat ≤ 127
  · rw [if_pos one]
    exact .inl ⟨by omega, _, rfl, toNat_ofNat_eq rfl (by omega)⟩
  rw [if_neg one]
  by_cases two : c.toNat ≤ 2047
  · rw [if_pos two]
    exact .inr (.inl ⟨by omega, by omega, _, _, rfl, toNat_ofNat_eq (by omega) (by omega),
      toNat_ofNat_eq rfl (by omega)⟩)
  rw [if_neg two]
  by_cases three : c.toNat ≤ 65535
  · rw [if_pos three]
    exact .inr (.inr (.inl ⟨by omega, by omega, _, _, _, rfl,
      toNat_ofNat_eq (by omega) (by omega), toNat_ofNat_eq rfl (by omega),
      toNat_ofNat_eq rfl (by omega)⟩))
  · rw [if_neg three]
    exact .inr (.inr (.inr ⟨by omega, _, _, _, _, rfl, toNat_ofNat_eq (by omega) (by omega),
      toNat_ofNat_eq rfl (by omega), toNat_ofNat_eq rfl (by omega),
      toNat_ofNat_eq rfl (by omega)⟩))

theorem accepts_narrowed {b x low high first second : UInt8} {bytes : List UInt8}
    {bits missing : Nat} (continues : Continues x) (above : b = first → low.toNat ≤ x.toNat)
    (below : b = second → x.toNat ≤ high.toNat) :
    Begun.accepts ⟨bytes, bits, missing, if b = first then low else 0x80,
      if b = second then high else 0xBF⟩ x = true := by
  rw [Begun.accepts_iff]
  refine ⟨?_, ?_⟩
  · show (if b = first then low else 0x80).toNat ≤ x.toNat
    split
    next isFirst => exact above isFirst
    next => exact continues.1
  · show x.toNat ≤ (if b = second then high else 0xBF).toNat
    split
    next isSecond => exact below isSecond
    next => exact continues.2

/-- The encoding of a character is its one byte, or a first byte that begins a character and
    bytes that complete it. -/
theorem encodeChar_cases (c : Char) :
    (∃ b, utf8EncodeChar c = [b] ∧ Lead.ofByte b = .ascii c) ∨
    ∃ b begun tail, utf8EncodeChar c = b :: tail ∧ Lead.ofByte b = .begins begun ∧
      begun.CompletedBy tail ∧ begun.codePoint tail = c.toNat := by
  have valid := toNat_valid c
  rcases encodeChar_shape c with ⟨small, b, encoded, hb⟩ | ⟨low, high, b, x, encoded, hb, hx⟩ |
    ⟨low, high, b, x, y, encoded, hb, hx, hy⟩ | ⟨low, b, x, y, z, encoded, hb, hx, hy, hz⟩
  · refine .inl ⟨b, encoded, ?_⟩
    rcases Lead.ofByte_cases b with ⟨-, reads⟩ | ⟨_, -⟩ | ⟨_, -⟩ | ⟨_, -⟩ | ⟨_, -⟩
    · rw [reads, hb, Char.ofNat_toNat]
    all_goals omega
  · right
    rcases Lead.ofByte_cases b with ⟨_, -⟩ | ⟨-, -, reads⟩ | ⟨_, -⟩ | ⟨_, -⟩ | ⟨_, -⟩
    · omega
    · refine ⟨b, _, [x], encoded, reads, ⟨x, [], rfl, ?_, rfl, by simp⟩, ?_⟩
      · exact Begun.accepts_iff.mpr (show Continues x from ⟨by omega, by omega⟩)
      · show withByte (b.toNat - 0xC0) x = c.toNat
        unfold withByte
        omega
    all_goals omega
  · right
    rcases Lead.ofByte_cases b with ⟨_, -⟩ | ⟨_, _, -⟩ | ⟨-, -, reads⟩ | ⟨_, -⟩ | ⟨_, -⟩
    · omega
    · omega
    · refine ⟨b, _, [x, y], encoded, reads, ⟨x, [y], rfl, ?_, rfl, ?_⟩, ?_⟩
      · exact accepts_narrowed ⟨by omega, by omega⟩
          (by rintro rfl; simp only [UInt8.reduceToNat] at hb ⊢; omega)
          (by rintro rfl; simp only [UInt8.reduceToNat] at hb ⊢; omega)
      · intro other member
        rw [List.mem_singleton.mp member]
        exact ⟨by omega, by omega⟩
      · show withByte (withByte (b.toNat - 0xE0) x) y = c.toNat
        unfold withByte
        omega
    all_goals omega
  · right
    rcases Lead.ofByte_cases b with ⟨_, -⟩ | ⟨_, _, -⟩ | ⟨_, _, -⟩ | ⟨-, -, reads⟩ | ⟨_, -⟩
    · omega
    · omega
    · omega
    · refine ⟨b, _, [x, y, z], encoded, reads, ⟨x, [y, z], rfl, ?_, rfl, ?_⟩, ?_⟩
      · exact accepts_narrowed ⟨by omega, by omega⟩
          (by rintro rfl; simp only [UInt8.reduceToNat] at hb ⊢; omega)
          (by rintro rfl; simp only [UInt8.reduceToNat] at hb ⊢; omega)
      · intro other member
        rcases List.mem_cons.mp member with rfl | member
        · exact ⟨by omega, by omega⟩
        · rw [List.mem_singleton.mp member]
          exact ⟨by omega, by omega⟩
      · show withByte (withByte (withByte (b.toNat - 0xF0) x) y) z = c.toNat
        unfold withByte
        omega
    · omega

namespace Scan

theorem foldl_completed {begun : Begun} {tail : List UInt8} (found : List Piece)
    (completed : begun.CompletedBy tail) :
    tail.foldl step ⟨found, some begun⟩ =
      ⟨.char (Char.ofNat (begun.codePoint tail)) :: found, none⟩ := by
  induction tail generalizing begun with
  | nil => obtain ⟨b, rest, impossible, -⟩ := completed; cases impossible
  | cons b rest ih =>
    obtain ⟨_, _, same, accepted, count, others⟩ := completed
    cases same
    cases rest with
    | nil =>
      have last : begun.missing ≤ 1 := Nat.le_of_eq count.symm
      simp only [List.foldl_cons, List.foldl_nil, step, accepted, last, if_true]
      rfl
    | cons next rest =>
      have more : ¬ begun.missing ≤ 1 := by
        rw [List.length_cons] at count
        omega
      have steps : step ⟨found, some begun⟩ b = ⟨found, some (begun.next b)⟩ := by
        simp only [step, accepted, more, if_true, if_false, Begun.next]
      have remaining : (begun.next b).CompletedBy (next :: rest) := by
        refine ⟨next, rest, rfl, ?_, ?_, ?_⟩
        · exact Begun.next_accepts.mpr (others next (List.mem_cons_self ..))
        · exact Nat.eq_sub_of_add_eq count
        · exact fun other member => others other (List.mem_cons_of_mem _ member)
      rw [List.foldl_cons, steps, ih remaining, Begun.next_codePoint]

theorem foldl_encodeChar (found : List Piece) (c : Char) :
    (utf8EncodeChar c).foldl step ⟨found, none⟩ = ⟨.char c :: found, none⟩ := by
  rcases encodeChar_cases c with
    ⟨b, encoded, reads⟩ | ⟨b, begun, tail, encoded, reads, completed, value⟩
  · rw [encoded]
    simp [step, start, reads]
  · have begins : step ⟨found, none⟩ b = ⟨found, some begun⟩ := by simp [step, start, reads]
    rw [encoded, List.foldl_cons, begins, foldl_completed found completed, value,
      Char.ofNat_toNat]

theorem foldl_encode (found : List Piece) (chars : List Char) :
    (chars.flatMap utf8EncodeChar).foldl step ⟨found, none⟩ =
      ⟨(chars.map Piece.char).reverse ++ found, none⟩ := by
  induction chars generalizing found with
  | nil => rfl
  | cons c chars ih =>
    rw [List.flatMap_cons, List.foldl_append, foldl_encodeChar, ih]
    simp

end Scan

/-- An encoded text is cut into its characters. -/
theorem pieces_encode (text : String) : pieces (encode text) = text.toList.map Piece.char := by
  rw [pieces, encode, Scan.foldl_encode, Scan.finish]
  simp

theorem isValid_encode (text : String) : isValid (encode text) = true := by
  rw [isValid, pieces_encode, List.all_map, List.all_eq_true]
  intro c _
  rfl

theorem decodeLossy_encode (text : String) : decodeLossy (encode text) = text := by
  rw [decodeLossy, pieces_encode, List.map_map]
  have shown : Piece.shown ∘ Piece.char = id := rfl
  rw [shown, List.map_id, String.ofList_toList]

/-- The byte strings that are read as UTF-8 are the encodings of texts. -/
theorem decode?_eq_some_iff {bytes : List UInt8} {text : String} :
    decode? bytes = some text ↔ encode text = bytes := by
  constructor
  · intro decoded
    rw [decode?, Option.ite_none_right_eq_some] at decoded
    obtain ⟨valid, shown⟩ := decoded
    cases shown
    exact encode_decodeLossy valid
  · rintro rfl
    rw [decode?, if_pos (isValid_encode text), decodeLossy_encode]

@[simp] theorem decode?_encode (text : String) : decode? (encode text) = some text :=
  decode?_eq_some_iff.mpr rfl

/-- An encoded text is split off whole. -/
theorem splitValid_encode (text : String) : splitValid (encode text) = (text.toList, []) := by
  have whole : ((text.toList.map Piece.char).takeWhile fun piece => piece.char?.isSome) =
      text.toList.map Piece.char := by
    induction text.toList with
    | nil => rfl
    | cons c chars ih => rw [List.map_cons, List.takeWhile_cons_of_pos rfl, ih]
  have shown : Piece.shown ∘ Piece.char = id := rfl
  have spent : (encode text).drop (text.toList.flatMap String.utf8EncodeChar).length = [] :=
    List.drop_length
  rw [splitValid, pieces_encode, whole, List.map_map, shown, List.map_id, spent]

theorem isValid_iff {bytes : List UInt8} :
    isValid bytes = true ↔ ∃ text, encode text = bytes := by
  constructor
  · intro valid
    exact ⟨_, encode_decodeLossy valid⟩
  · rintro ⟨text, rfl⟩
    exact isValid_encode text

/-! ## Bytes below 80 and the order of bytes -/

/-- A byte below `80` occurs in the encoding of the character it stands for, and of no
    other. -/
theorem mem_encodeChar {b : UInt8} {c : Char} (ascii : b.toNat < 0x80) :
    b ∈ utf8EncodeChar c ↔ c.toNat = b.toNat := by
  rcases encodeChar_shape c with ⟨small, first, encoded, hb⟩ |
    ⟨low, high, first, x, encoded, hb, hx⟩ | ⟨low, high, first, x, y, encoded, hb, hx, hy⟩ |
    ⟨low, first, x, y, z, encoded, hb, hx, hy, hz⟩
  all_goals
    rw [encoded]
    simp only [List.mem_cons, List.not_mem_nil, or_false, ← UInt8.toNat_inj]
    omega

theorem mem_encode {b : UInt8} {c : Char} {text : String} (ascii : b.toNat < 0x80)
    (same : c.toNat = b.toNat) : b ∈ encode text ↔ c ∈ text.toList := by
  rw [encode, List.mem_flatMap]
  constructor
  · rintro ⟨d, member, spelt⟩
    obtain rfl : d = c := Char.toNat_inj.mp (((mem_encodeChar ascii).mp spelt).trans same.symm)
    exact member
  · intro member
    exact ⟨c, member, (mem_encodeChar ascii).mpr same⟩

theorem encodeChar_lt {c d : Char} (before : c.toNat < d.toNat) (rest other : List UInt8) :
    utf8EncodeChar c ++ rest < utf8EncodeChar d ++ other := by
  have valid := toNat_valid d
  rcases encodeChar_shape c with ⟨_, b, hc, _⟩ | ⟨_, _, b, x, hc, _, _⟩ |
    ⟨_, _, b, x, y, hc, _, _, _⟩ | ⟨_, b, x, y, z, hc, _, _, _, _⟩ <;>
  rcases encodeChar_shape d with ⟨_, b', hd, _⟩ | ⟨_, _, b', x', hd, _, _⟩ |
    ⟨_, _, b', x', y', hd, _, _, _⟩ | ⟨_, b', x', y', z', hd, _, _, _, _⟩
  all_goals
    rw [hc, hd]
    simp only [List.cons_append, List.nil_append, List.cons_lt_cons_iff, UInt8.lt_iff_toNat_lt,
      ← UInt8.toNat_inj]
    omega

theorem flatMap_encodeChar_lt {first second : List Char} (before : first < second) :
    first.flatMap utf8EncodeChar < second.flatMap utf8EncodeChar := by
  induction first generalizing second with
  | nil =>
    cases second with
    | nil => exact absurd before (List.lt_irrefl [])
    | cons d ds =>
      obtain ⟨b, tail, encoded⟩ :=
        List.exists_cons_of_ne_nil (String.utf8EncodeChar_ne_nil (c := d))
      rw [List.flatMap_nil, List.flatMap_cons, encoded]
      exact List.nil_lt_cons ..
  | cons c cs ih =>
    cases second with
    | nil => exact absurd before (List.not_lt_nil _)
    | cons d ds =>
      rw [List.flatMap_cons, List.flatMap_cons]
      rcases List.cons_lt_cons_iff.mp before with smaller | ⟨rfl, later⟩
      · exact encodeChar_lt smaller _ _
      · exact List.append_left_lt (ih later)

/-- Texts come in the order in which their bytes come. -/
theorem encode_lt {first second : String} (before : first < second) :
    encode first < encode second :=
  flatMap_encodeChar_lt before

end Conformance.Utf8
