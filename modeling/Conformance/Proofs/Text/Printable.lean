import Conformance.Duration
import Conformance.Proofs.Text.Rows

/-! # Printable text

Reports are framed by control characters, so what stands between them has to be free of control
characters.  In bytes that is the same: a byte below `20` stands for itself.

What a report says in its own words is in lower case, apart from the words that its lines begin
with.
-/

namespace Conformance.Text

/-- A text without control characters below `20`. -/
def Printable (text : List Char) : Prop := ∀ c ∈ text, 0x20 ≤ c.toNat

instance (text : List Char) : Decidable (Printable text) :=
  List.decidableBAll (fun c : Char => 0x20 ≤ c.toNat) text

@[simp] theorem printable_nil : Printable [] := by simp [Printable]

@[simp] theorem printable_cons {c : Char} {text : List Char} :
    Printable (c :: text) ↔ 0x20 ≤ c.toNat ∧ Printable text := by
  simp [Printable]

@[simp] theorem printable_append {first second : List Char} :
    Printable (first ++ second) ↔ Printable first ∧ Printable second := by
  simp [Printable, or_imp, forall_and]

theorem printable_flatMap {α : Type} {all : List α} {text : α → List Char}
    (each : ∀ a, Printable (text a)) : Printable (all.flatMap text) := by
  intro c member
  obtain ⟨a, -, found⟩ := List.mem_flatMap.mp member
  exact each a c found

theorem Printable.not_mem {text : List Char} (printable : Printable text) {c : Char}
    (control : c.toNat < 0x20) : c ∉ text := by
  intro member
  have := printable c member
  omega

@[simp] theorem printable_toDigits (n : Nat) : Printable (Nat.toDigits 10 n) := by
  intro c member
  have digit := Nat.isDigit_of_mem_toDigits (by decide) (by decide) member
  simp only [Char.isDigit, ge_iff_le, Bool.and_eq_true, decide_eq_true_eq,
    UInt32.le_iff_toNat_le] at digit
  have low : 48 ≤ c.toNat := digit.1
  omega

@[simp] theorem printable_showSeconds (duration : Duration) :
    Printable duration.showSeconds.toList := by
  simp only [Duration.showSeconds, Duration.showHundredths]
  split <;> simp

/-- No byte of a printable text is below `20`. -/
theorem Printable.bytes {text : String} (printable : Printable text.toList) {b : UInt8}
    (member : b ∈ Utf8.encode text) : 0x20 ≤ b.toNat := by
  by_contra control
  have ascii : b.toNat < 0x80 := by omega
  obtain ⟨c, found, spelt⟩ := List.mem_flatMap.mp member
  have same := (Utf8.mem_encodeChar ascii).mp spelt
  have := printable c found
  omega

theorem not_mem_toDigits {c : Char} (other : c.isDigit = false) (n : Nat) :
    c ∉ Nat.toDigits 10 n := by
  intro member
  have digit := Nat.isDigit_of_mem_toDigits (by decide) (by decide) member
  simp [other] at digit

theorem not_mem_showSeconds {c : Char} (other : c.isDigit = false) (noPoint : c ≠ '.')
    (duration : Duration) : c ∉ duration.showSeconds.toList := by
  have noZero : c ≠ '0' := by
    rintro rfl
    cases other
  simp only [Duration.showSeconds, Duration.showHundredths]
  split <;> simp [not_mem_toDigits other, noPoint, noZero]

/-! ## Lower case -/

/-- A printable text without capital letters. -/
def Lowercase (text : List Char) : Prop :=
  ∀ c ∈ text, 0x20 ≤ c.toNat ∧ ¬ ('A' ≤ c ∧ c ≤ 'Z')

instance (text : List Char) : Decidable (Lowercase text) :=
  List.decidableBAll (fun c : Char => 0x20 ≤ c.toNat ∧ ¬ ('A' ≤ c ∧ c ≤ 'Z')) text

theorem Lowercase.printable {text : List Char} (lowercase : Lowercase text) : Printable text :=
  fun c member => (lowercase c member).1

theorem Lowercase.not_mem {text : List Char} (lowercase : Lowercase text) {c : Char}
    (capital : 'A' ≤ c ∧ c ≤ 'Z') : c ∉ text := fun member => (lowercase c member).2 capital

@[simp] theorem lowercase_nil : Lowercase [] := by simp [Lowercase]

@[simp] theorem lowercase_append {first second : List Char} :
    Lowercase (first ++ second) ↔ Lowercase first ∧ Lowercase second :=
  List.forall_mem_append

@[simp] theorem lowercase_toDigits (n : Nat) : Lowercase (Nat.toDigits 10 n) := by
  intro c member
  have digit := Nat.isDigit_of_mem_toDigits (by decide) (by decide) member
  refine ⟨printable_toDigits n c member, ?_⟩
  simp only [Char.isDigit, Bool.and_eq_true, decide_eq_true_eq, UInt32.le_iff_toNat_le] at digit
  have high : c.val.toNat ≤ 57 := digit.2
  rintro ⟨capital, -⟩
  have low : 65 ≤ c.val.toNat := capital
  omega

@[simp] theorem lowercase_toString (n : Nat) : Lowercase (toString n).toList := by
  simp [Nat.toList_repr]

@[simp] theorem lowercase_showSeconds (duration : Duration) :
    Lowercase duration.showSeconds.toList := by
  have point : Lowercase ".".toList := by decide
  have zero : Lowercase "0".toList := by decide
  simp only [Duration.showSeconds, Duration.showHundredths, String.toList_append,
    lowercase_append, lowercase_toString, point, true_and, and_true]
  split
  · exact zero
  · exact lowercase_nil

end Conformance.Text
