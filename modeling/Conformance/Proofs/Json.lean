import Conformance.Json
import Conformance.Proofs.Text.Printable
import Mathlib.Order.Basic

/-! # Reading records back

A reader of flat JSON objects, and the proof that it gives every record back from its written
form.  The reader follows the grammar of JSON (RFC 8259) for objects whose members are scalars
and that have nothing between their tokens; it refuses what the grammar refuses, such as
control characters inside strings, numbers with superfluous zeros and a comma before the
closing brace.  Numbers with a fraction or an exponent and escaped surrogates, which no record
contains, are refused as well.

No control character is left in a written record, so it can be framed by them
(`printable_write`).
-/

namespace Conformance.Json

/-! ## The reader -/

/-- The value of a hexadecimal digit. -/
def hexValue? (c : Char) : Option Nat :=
  if c.isDigit then some (c.toNat - 48)
  else if 'a' ≤ c ∧ c ≤ 'f' then some (c.toNat - 87)
  else if 'A' ≤ c ∧ c ≤ 'F' then some (c.toNat - 55)
  else none

/-- The character with the code that four hexadecimal digits give; surrogates are none. -/
def unicodeEscape? (a b c d : Char) : Option Char :=
  match hexValue? a, hexValue? b, hexValue? c, hexValue? d with
  | some a, some b, some c, some d =>
    let code := ((a * 16 + b) * 16 + c) * 16 + d
    if code.isValidChar then some (Char.ofNat code) else none
  | _, _, _, _ => none

/-- The character that a letter after a backslash stands for. -/
def letterEscape? : Char → Option Char
  | '"' => some '"'
  | '\\' => some '\\'
  | '/' => some '/'
  | 'b' => some '\x08'
  | 'f' => some '\x0c'
  | 'n' => some '\n'
  | 'r' => some '\r'
  | 't' => some '\t'
  | _ => none

/-- Reads characters up to the closing quote; what follows it is left. -/
def readChars : List Char → Option (List Char × List Char)
  | [] => none
  | '"' :: rest => some ([], rest)
  | '\\' :: 'u' :: a :: b :: c :: d :: rest =>
    match unicodeEscape? a b c d with
    | some char => (readChars rest).map fun (chars, rest) => (char :: chars, rest)
    | none => none
  | '\\' :: letter :: rest =>
    match letterEscape? letter with
    | some char => (readChars rest).map fun (chars, rest) => (char :: chars, rest)
    | none => none
  | c :: rest =>
    if c.toNat < 0x20 ∨ c = '\\' then none
    else (readChars rest).map fun (chars, rest) => (c :: chars, rest)

/-- Reads decimal digits, the first of which is zero only if it is the only one. -/
def readDigits (text : List Char) : Option (Nat × List Char) :=
  let digits := text.takeWhile Char.isDigit
  if digits = [] ∨ digits.head? = some '0' ∧ digits ≠ ['0'] then none
  else some (Nat.ofDigitChars 10 digits 0, text.dropWhile Char.isDigit)

/-- Reads a whole number with an optional sign. -/
def readNumber : List Char → Option (Int × List Char)
  | '-' :: rest => (readDigits rest).map fun (n, rest) => (-(n : Int), rest)
  | text => (readDigits text).map fun (n, rest) => ((n : Int), rest)

/-- Reads a value. -/
def readScalar : List Char → Option (Scalar × List Char)
  | 'n' :: 'u' :: 'l' :: 'l' :: rest => some (.null, rest)
  | 't' :: 'r' :: 'u' :: 'e' :: rest => some (.bool true, rest)
  | 'f' :: 'a' :: 'l' :: 's' :: 'e' :: rest => some (.bool false, rest)
  | '"' :: rest => (readChars rest).map fun (chars, rest) => (.text (String.ofList chars), rest)
  | text => (readNumber text).map fun (n, rest) => (.number n, rest)

/-- Reads a key, a colon and a value. -/
def readMember : List Char → Option ((String × Scalar) × List Char)
  | '"' :: rest =>
    match readChars rest with
    | some (key, ':' :: rest) =>
      (readScalar rest).map fun (value, rest) => ((String.ofList key, value), rest)
    | _ => none
  | _ => none

/-- Reads members with commas between them, up to the closing brace. -/
def readMembers (text : List Char) : Option (Record × List Char) :=
  match readMember text with
  | some (entry, '\x7d' :: rest) => some ([entry], rest)
  | some (entry, ',' :: rest) =>
    -- A member and its comma take up characters, so this is always so.
    if rest.length < text.length then
      (readMembers rest).map fun (record, rest) => (entry :: record, rest)
    else none
  | _ => none
termination_by text.length

/-- Reads a text that is a flat object as a whole. -/
def read? : List Char → Option Record
  | ['\x7b', '\x7d'] => some []
  | '\x7b' :: text =>
    match readMembers text with
    | some (record, []) => some record
    | _ => none
  | _ => none

/-! ## Strings -/

theorem hexValue?_digitChar : ∀ n < 16, hexValue? (Nat.digitChar n) = some n := by decide

theorem readChars_plain {c : Char} (notQuote : c ≠ '"') (notBackslash : c ≠ '\\')
    (printable : ¬ c.toNat < 0x20) (rest : List Char) :
    readChars (c :: rest) = (readChars rest).map fun (chars, rest) => (c :: chars, rest) := by
  rw [readChars.eq_def]
  split
  next same => cases same
  next same => cases same; exact absurd rfl notQuote
  next same => cases same; exact absurd rfl notBackslash
  next same => cases same; exact absurd rfl notBackslash
  next same =>
    cases same
    rw [if_neg (by simp [printable, notBackslash])]

theorem readChars_escapeChar (c : Char) (rest : List Char) :
    readChars (escapeChar c ++ rest) =
      (readChars rest).map fun (chars, rest) => (c :: chars, rest) := by
  unfold escapeChar
  split
  next isQuote => subst isQuote; rfl
  next notQuote =>
  split
  next isBackslash => subst isBackslash; rfl
  next notBackslash =>
  split
  next isLineFeed => subst isLineFeed; rfl
  split
  next isReturn => subst isReturn; rfl
  split
  next isTab => subst isTab; rfl
  split
  next isBackspace => subst isBackspace; rfl
  split
  next isFormFeed => subst isFormFeed; rfl
  split
  next control =>
    have high := hexValue?_digitChar (c.toNat / 16) (by omega)
    have low := hexValue?_digitChar (c.toNat % 16) (by omega)
    have zero : hexValue? '0' = some 0 := rfl
    have code : ((0 * 16 + 0) * 16 + c.toNat / 16) * 16 + c.toNat % 16 = c.toNat := by omega
    have valid : c.toNat.isValidChar := .inl (by omega)
    have escape : unicodeEscape? '0' '0' (Nat.digitChar (c.toNat / 16))
        (Nat.digitChar (c.toNat % 16)) = some c := by
      simp only [unicodeEscape?, zero, high, low, code, valid, if_true, Char.ofNat_toNat]
    simp only [List.cons_append, List.nil_append, readChars, escape]
  next printable => exact readChars_plain notQuote notBackslash printable rest

theorem readChars_flatMap (chars rest : List Char) :
    readChars (chars.flatMap escapeChar ++ '"' :: rest) = some (chars, rest) := by
  induction chars with
  | nil => rfl
  | cons c chars ih =>
    rw [List.flatMap_cons, List.append_assoc, readChars_escapeChar, ih]
    rfl

/-! ## Numbers -/

theorem toList_toString_ofNat (n : Nat) : (toString (Int.ofNat n)).toList = Nat.toDigits 10 n :=
  Nat.toList_repr

theorem toList_toString_negSucc (n : Nat) :
    (toString (Int.negSucc n)).toList = '-' :: Nat.toDigits 10 (n + 1) := by
  rw [← Nat.toList_repr]
  exact String.toList_append ..

theorem eq_zero_of_head?_toDigits {n : Nat} (zero : (Nat.toDigits 10 n).head? = some '0') :
    n = 0 := by
  induction n using Nat.strongRecOn with
  | _ n ih =>
    by_cases small : n < 10
    · rw [Nat.toDigits_of_lt_base small] at zero
      simpa using zero
    · have ten_le : 10 ≤ n := by omega
      obtain ⟨c, digits, leading⟩ :=
        List.exists_cons_of_ne_nil (Nat.toDigits_ne_nil (n := n / 10) (b := 10))
      rw [Nat.toDigits_of_base_le (by decide) ten_le, leading, List.cons_append,
        List.head?_cons] at zero
      have vanishes := ih (n / 10) (by omega) (by rw [leading, List.head?_cons, zero])
      omega

theorem readDigits_toDigits (n : Nat) {rest : List Char}
    (stops : rest.takeWhile Char.isDigit = []) :
    readDigits (Nat.toDigits 10 n ++ rest) = some (n, rest) := by
  have digits : ∀ c ∈ Nat.toDigits 10 n, c.isDigit = true := fun c member =>
    Nat.isDigit_of_mem_toDigits (by decide) (by decide) member
  have left : rest.dropWhile Char.isDigit = rest := by
    have both := List.takeWhile_append_dropWhile (p := Char.isDigit) (l := rest)
    rwa [stops, List.nil_append] at both
  have wellFormed : ¬ (Nat.toDigits 10 n = [] ∨
      (Nat.toDigits 10 n).head? = some '0' ∧ Nat.toDigits 10 n ≠ ['0']) := by
    rintro (empty | ⟨zero, more⟩)
    · exact Nat.toDigits_ne_nil empty
    · obtain rfl := eq_zero_of_head?_toDigits zero
      exact more (Nat.toDigits_zero 10)
  rw [readDigits, List.takeWhile_append_of_pos digits, stops, List.append_nil, if_neg wellFormed,
    List.dropWhile_append_of_pos digits, left, Nat.ofDigitChars_ten_toDigits]

theorem readNumber_of_digit {c : Char} (digit : c.isDigit = true) (rest : List Char) :
    readNumber (c :: rest) = (readDigits (c :: rest)).map fun (n, rest) => ((n : Int), rest) := by
  rw [readNumber.eq_def]
  split
  next same => cases same; cases digit
  next => rfl

theorem readScalar_of_digit {c : Char} (digit : c.isDigit = true) (rest : List Char) :
    readScalar (c :: rest) =
      (readNumber (c :: rest)).map fun (n, rest) => (.number n, rest) := by
  rw [readScalar.eq_def]
  split
  next same => cases same; cases digit
  next same => cases same; cases digit
  next same => cases same; cases digit
  next same => cases same; cases digit
  next => rfl

theorem readScalar_number (n : Int) {rest : List Char}
    (stops : rest.takeWhile Char.isDigit = []) :
    readScalar ((toString n).toList ++ rest) = some (.number n, rest) := by
  cases n with
  | ofNat m =>
    obtain ⟨c, digits, written⟩ :=
      List.exists_cons_of_ne_nil (Nat.toDigits_ne_nil (n := m) (b := 10))
    have digit : c.isDigit = true := by
      refine Nat.isDigit_of_mem_toDigits (b := 10) (n := m) (by decide) (by decide) ?_
      rw [written]
      exact List.mem_cons_self ..
    have reads := readDigits_toDigits m stops
    rw [written, List.cons_append] at reads
    rw [toList_toString_ofNat, written, List.cons_append, readScalar_of_digit digit,
      readNumber_of_digit digit, reads]
    rfl
  | negSucc m =>
    have signed (digits : List Char) : readScalar ('-' :: digits) =
        (readDigits digits).map fun (n, rest) => (.number (-(n : Int)), rest) := by
      simp [readScalar, readNumber, Option.map_map, Function.comp_def]
    rw [toList_toString_negSucc, List.cons_append, signed, readDigits_toDigits (m + 1) stops]
    rfl

/-! ## Records -/

theorem readScalar_write (value : Scalar) {rest : List Char}
    (stops : rest.takeWhile Char.isDigit = []) :
    readScalar (value.write ++ rest) = some (value, rest) := by
  cases value with
  | null => rfl
  | bool value => cases value <;> rfl
  | number n => exact readScalar_number n stops
  | text value =>
    have reads := readChars_flatMap value.toList rest
    simp only [Scalar.write, writeText, List.cons_append, List.append_assoc, List.nil_append]
    rw [readScalar, reads]
    simp

theorem readMember_write (entry : String × Scalar) {rest : List Char}
    (stops : rest.takeWhile Char.isDigit = []) :
    readMember (writeMember entry ++ rest) = some (entry, rest) := by
  obtain ⟨key, value⟩ := entry
  have reads := readChars_flatMap key.toList (':' :: (value.write ++ rest))
  simp only [writeMember, writeText, List.cons_append, List.append_assoc, List.nil_append]
  rw [readMember, reads]
  simp [readScalar_write value stops]

theorem readMembers_write (entry : String × Scalar) (record : Record) (rest : List Char) :
    readMembers ([','].intercalate ((entry :: record).map writeMember) ++ '\x7d' :: rest) =
      some (entry :: record, rest) := by
  induction record generalizing entry with
  | nil =>
    rw [readMembers]
    simp [List.intercalate, readMember_write]
  | cons next record ih =>
    -- The first member ends at its comma, and the rest is shorter by the two of them.
    generalize follows :
      [','].intercalate ((next :: record).map writeMember) ++ '\x7d' :: rest = after
    have split : [','].intercalate ((entry :: next :: record).map writeMember) ++ '\x7d' :: rest =
        writeMember entry ++ ',' :: after := by
      rw [← follows]
      simp only [List.map_cons, List.intercalate_cons_cons, List.append_assoc, List.cons_append,
        List.nil_append]
    have shorter : after.length < (writeMember entry ++ ',' :: after).length := by
      rw [List.length_append, List.length_cons]
      omega
    rw [split, readMembers, @readMember_write entry (',' :: after) rfl]
    simp only [shorter, if_true]
    rw [← follows, ih]
    rfl

/-- Whatever characters its keys and texts contain, a record is read back from its written
    form. -/
theorem read?_write (record : Record) : read? (write record) = some record := by
  cases record with
  | nil => rfl
  | cons entry record =>
    have reads := readMembers_write entry record []
    have nonempty :
        [','].intercalate ((entry :: record).map writeMember) ++ ['\x7d'] ≠ ['\x7d'] := by
      intro empty
      rw [empty, readMembers.eq_def] at reads
      cases reads
    rw [write, List.cons_append, read?, reads]
    simpa using nonempty

/-! ## Control characters -/

section

open Text (Printable printable_append printable_cons printable_flatMap)

theorem digitChar_printable : ∀ n < 16, 0x20 ≤ (Nat.digitChar n).toNat := by decide

theorem printable_escapeChar (c : Char) : Printable (escapeChar c) := by
  unfold escapeChar
  -- The short escapes are fixed texts.
  iterate 7
    split
    next => decide
  split
  next control =>
    have high := digitChar_printable (c.toNat / 16) (by omega)
    have low := digitChar_printable (c.toNat % 16) (by omega)
    simp [high, low]
  next plain => simpa using plain

theorem printable_writeText (text : String) : Printable (writeText text) := by
  have chars : Printable (text.toList.flatMap escapeChar) := printable_flatMap printable_escapeChar
  have quote : Printable ['"'] := by decide
  exact printable_append.mpr ⟨printable_append.mpr ⟨quote, chars⟩, quote⟩

theorem printable_write_scalar (value : Scalar) : Printable value.write := by
  cases value with
  | null => decide
  | bool value => cases value <;> decide
  | number n =>
    cases n with
    | ofNat m =>
      rw [Scalar.write, toList_toString_ofNat]
      exact Text.printable_toDigits m
    | negSucc m =>
      rw [Scalar.write, toList_toString_negSucc]
      exact printable_cons.mpr ⟨by decide, Text.printable_toDigits (m + 1)⟩
  | text value => exact printable_writeText value

theorem printable_writeMember (entry : String × Scalar) : Printable (writeMember entry) :=
  printable_append.mpr ⟨printable_writeText entry.1,
    printable_cons.mpr ⟨by decide, printable_write_scalar entry.2⟩⟩

theorem printable_members (record : Record) :
    Printable ([','].intercalate (record.map writeMember)) := by
  induction record with
  | nil => exact Text.printable_nil
  | cons entry record ih =>
    cases record with
    | nil => simpa using printable_writeMember entry
    | cons next record =>
      have comma : Printable [','] := by decide
      rw [List.map_cons, List.map_cons, List.intercalate_cons_cons]
      exact printable_append.mpr ⟨printable_append.mpr ⟨printable_writeMember entry, comma⟩, ih⟩

/-- A written record has no control characters, whatever its texts contain. -/
theorem printable_write (record : Record) : Printable (write record) := by
  have opening : Printable ['\x7b'] := by decide
  have closing : Printable ['\x7d'] := by decide
  exact printable_append.mpr
    ⟨printable_append.mpr ⟨opening, printable_members record⟩, closing⟩

/-- A written record stays on its line. -/
theorem lineFeed_not_mem_write (record : Record) : '\n' ∉ write record :=
  (printable_write record).not_mem (by decide)

end

end Conformance.Json
