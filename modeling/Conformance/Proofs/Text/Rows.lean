import Conformance.Proofs.Text.Utf8
import Conformance.Text.Lines

/-! # Rows

Reports are read row by row, a row being what stands between two line feeds.  What follows the
last line feed is a row too, and it is empty if every row of a report is closed by one.

Captured text is cut at its line feeds before it is shown, so no line of it reaches over the
row it is shown in.
-/

namespace Conformance.Text

/-- The byte that closes a row. -/
def lineFeed : UInt8 := 0x0A

/-- The rows of a byte string. -/
def rows (bytes : List UInt8) : List (List UInt8) := bytes.splitOn lineFeed

theorem rows_nil : rows [] = [[]] := rfl

theorem rows_append (bytes rest : List UInt8) :
    rows (bytes ++ lineFeed :: rest) = rows bytes ++ rows rest :=
  List.splitOn_append_cons_self bytes rest

theorem rows_cons {row : List UInt8} (unbroken : lineFeed ∉ row) (rest : List UInt8) :
    rows (row ++ lineFeed :: rest) = row :: rows rest :=
  List.splitOn_append_cons_self_of_not_mem unbroken rest

theorem rows_flatMap {α : Type} {row : α → List UInt8} (unbroken : ∀ a, lineFeed ∉ row a)
    (all : List α) :
    rows (all.flatMap fun a => row a ++ [lineFeed]) = all.map row ++ [[]] := by
  induction all with
  | nil => exact rows_nil
  | cons a rest ih =>
    rw [List.flatMap_cons, List.append_assoc, List.singleton_append, rows_cons (unbroken a), ih]
    rfl

/-- A byte string is a single row, or a row in front of a shorter byte string. -/
theorem rows_induction {motive : List UInt8 → Prop}
    (single : ∀ row, lineFeed ∉ row → motive row)
    (cons : ∀ row rest, lineFeed ∉ row → motive rest → motive (row ++ lineFeed :: rest))
    (bytes : List UInt8) : motive bytes := by
  induction size : bytes.length using Nat.strongRecOn generalizing bytes with
  | _ n ih =>
    by_cases broken : lineFeed ∈ bytes
    · obtain ⟨row, rest, rfl, unbroken⟩ := List.eq_append_cons_of_mem broken
      apply cons row rest unbroken
      apply ih rest.length _ rest rfl
      rw [← size, List.length_append, List.length_cons]
      omega
    · exact single bytes broken

theorem rows_of_unbroken {row : List UInt8} (unbroken : lineFeed ∉ row) : rows row = [row] :=
  List.splitOn_eq_singleton unbroken

theorem lineFeed_not_mem_of_mem_rows {bytes row : List UInt8} (member : row ∈ rows bytes) :
    lineFeed ∉ row := by
  induction bytes using rows_induction with
  | single other unbroken =>
    rw [rows_of_unbroken unbroken, List.mem_singleton] at member
    exact member ▸ unbroken
  | cons other rest unbroken ih =>
    rw [rows_cons unbroken, List.mem_cons] at member
    cases member with
    | inl same => exact same ▸ unbroken
    | inr later => exact ih later

theorem lineFeed_mem_encode {text : String} :
    lineFeed ∈ Utf8.encode text ↔ '\n' ∈ text.toList :=
  Utf8.mem_encode (by decide) rfl

/-! ## Phrases -/

section

variable {phrase : List UInt8} {b : UInt8}

/-- A phrase does not reach over a byte that it does not contain. -/
theorem prefix_barrier (free : b ∉ phrase) (text rest : List UInt8) :
    phrase <+: text ++ b :: rest ↔ phrase <+: text := by
  constructor
  · intro begins
    rcases List.prefix_or_prefix_of_prefix begins (List.prefix_append text _) with inside | across
    · exact inside
    · -- The phrase would have to go on with the byte.
      obtain ⟨more, rfl⟩ := across
      rw [List.prefix_append_right_inj] at begins
      cases more with
      | nil => simp
      | cons c more =>
        rw [List.cons_prefix_cons] at begins
        simp [begins.1] at free
  · intro begins
    exact begins.trans (List.prefix_append ..)

theorem infix_barrier (free : b ∉ phrase) {text rest : List UInt8}
    (found : phrase <:+: text ++ b :: rest) : phrase <:+: text ∨ phrase <:+: rest := by
  induction text with
  | nil =>
    rw [List.nil_append, List.infix_cons_iff] at found
    apply found.imp_left
    intro begins
    exact ((prefix_barrier free [] rest).mp begins).isInfix
  | cons c text ih =>
    rw [List.cons_append, List.infix_cons_iff, ← List.cons_append, prefix_barrier free] at found
    rcases found with here | later
    · exact .inl here.isInfix
    · exact (ih later).imp_left fun inside => List.infix_cons inside

/-- A phrase stands behind what is free of its first byte. -/
theorem infix_of_infix_append (first : phrase.head? = some b) {front rest : List UInt8}
    (free : b ∉ front) (found : phrase <:+: front ++ rest) : phrase <:+: rest := by
  induction front with
  | nil => exact found
  | cons c front ih =>
    rw [List.mem_cons, not_or] at free
    rw [List.cons_append, List.infix_cons_iff] at found
    rcases found with here | later
    · obtain ⟨more, rfl⟩ := List.head?_eq_some_iff.mp first
      rw [List.cons_prefix_cons] at here
      exact absurd here.1 free.1
    · exact ih free.2 later

end

/-! ## Lines of captured text -/

namespace Cut

/-- A cut none of whose lines contains a line feed. -/
structure Unbroken (cut : Cut) : Prop where
  finished : ∀ line ∈ cut.finished, '\n' ∉ line
  opened : '\n' ∉ cut.opened

theorem Unbroken.close {cut : Cut} (unbroken : cut.Unbroken) : cut.close.Unbroken := by
  have opened := unbroken.opened
  unfold Cut.close
  split
  next line shape =>
    rw [shape, List.mem_cons, not_or] at opened
    refine ⟨?_, List.not_mem_nil⟩
    simpa using ⟨opened.2, unbroken.finished⟩
  next =>
    refine ⟨?_, List.not_mem_nil⟩
    simpa using ⟨opened, unbroken.finished⟩

theorem Unbroken.step {cut : Cut} (unbroken : cut.Unbroken) (c : Char) :
    (cut.step c).Unbroken := by
  unfold Cut.step
  split
  next => exact unbroken.close
  next other =>
    refine ⟨unbroken.finished, ?_⟩
    simpa using ⟨Ne.symm other, unbroken.opened⟩

theorem Unbroken.foldl {cut : Cut} (unbroken : cut.Unbroken) (text : List Char) :
    (text.foldl Cut.step cut).Unbroken := by
  induction text generalizing cut with
  | nil => exact unbroken
  | cons c text ih => exact ih (unbroken.step c)

theorem Unbroken.finish {cut : Cut} (unbroken : cut.Unbroken) :
    ∀ line ∈ cut.finish, '\n' ∉ line := by
  intro line member
  unfold Cut.finish at member
  split at member
  next => exact unbroken.finished line (List.mem_reverse.mp member)
  next =>
    rcases List.mem_cons.mp (List.mem_reverse.mp member) with rfl | member
    · simpa using unbroken.opened
    · exact unbroken.finished line member

/-- A cut of a text: the finished lines stand somewhere in it, the open one at its end. -/
structure Within (cut : Cut) (text : List Char) : Prop where
  finished : ∀ line ∈ cut.finished, line <:+: text
  opened : cut.opened.reverse <:+ text

theorem Within.close {cut : Cut} {text : List Char} (within : cut.Within text) :
    cut.close.Within (text ++ ['\n']) := by
  have longer {line : List Char} (inside : line <:+: text) : line <:+: text ++ ['\n'] :=
    inside.trans (List.prefix_append ..).isInfix
  have opened := within.opened
  unfold Cut.close
  split
  next line shape =>
    rw [shape, List.reverse_cons] at opened
    have first : line.reverse <:+: text :=
      (List.prefix_append line.reverse ['\r']).isInfix.trans opened.isInfix
    refine ⟨?_, List.nil_suffix⟩
    simpa using ⟨longer first, fun other member => longer (within.finished other member)⟩
  next =>
    refine ⟨?_, List.nil_suffix⟩
    simpa using ⟨longer opened.isInfix, fun other member => longer (within.finished other member)⟩

theorem Within.step {cut : Cut} {text : List Char} (within : cut.Within text) (c : Char) :
    (cut.step c).Within (text ++ [c]) := by
  unfold Cut.step
  split
  next isLineFeed => exact isLineFeed ▸ within.close
  next =>
    refine ⟨fun line member => ?_, ?_⟩
    · exact (within.finished line member).trans (List.prefix_append ..).isInfix
    · obtain ⟨front, shape⟩ := within.opened
      exact ⟨front, by simp [← shape]⟩

theorem Within.foldl {cut : Cut} {text : List Char} (within : cut.Within text)
    (rest : List Char) : (rest.foldl Cut.step cut).Within (text ++ rest) := by
  induction rest generalizing cut text with
  | nil => simpa using within
  | cons c rest ih => simpa using ih (within.step c)

theorem Within.finish {cut : Cut} {text : List Char} (within : cut.Within text) :
    ∀ line ∈ cut.finish, line <:+: text := by
  intro line member
  unfold Cut.finish at member
  split at member
  next => exact within.finished line (List.mem_reverse.mp member)
  next =>
    rcases List.mem_cons.mp (List.mem_reverse.mp member) with rfl | member
    · exact within.opened.isInfix
    · exact within.finished line member

end Cut

theorem lineFeed_not_mem_lines {text line : List Char} (member : line ∈ lines text) :
    '\n' ∉ line :=
  have start : Cut.Unbroken {} := ⟨by simp, by simp⟩
  (start.foldl text).finish line member

theorem infix_of_mem_lines {text line : List Char} (member : line ∈ lines text) : line <:+: text :=
  have start : Cut.Within {} [] := ⟨by simp, List.nil_suffix⟩
  (start.foldl text).finish line member

end Conformance.Text
