import Conformance.Proofs.Json
import Conformance.Proofs.Text.Printable
import Conformance.Report.Console

/-! # Closing lines

The closing line of a console report has parts that may be missing, and is unambiguous all the
same: every count ends where a word begins, and the parts that follow the counts begin
differently (`closingLine_inj`).
-/

namespace Conformance.Console

/-! ## Parts -/

/-- What a closing line says about timeouts. -/
def late (tally : Tally) : String :=
  if tally.timedOut = 0 then "" else ", " ++ toString tally.timedOut ++ " timed out"

/-- What a closing line says if the run stopped early. -/
def stopped (summary : Summary) : String :=
  if summary.stoppedEarly then " (stopped after first failure)" else ""

theorem toList_closingLine (summary : Summary) :
    (closingLine summary).toList =
      Nat.toDigits 10 summary.tally.passed ++ (" passed, ".toList ++
        (Nat.toDigits 10 summary.tally.failed ++ (" failed".toList ++
          ((late summary.tally).toList ++ (" in ".toList ++
            (summary.duration.showSeconds.toList ++ ("s".toList ++
              (stopped summary).toList))))))) := by
  have line : closingLine summary = toString summary.tally.passed ++ " passed, " ++
      toString summary.tally.failed ++ " failed" ++ late summary.tally ++ " in " ++
      summary.duration.showSeconds ++ "s" ++ stopped summary := rfl
  simp only [line, String.toList_append, Nat.toString_eq_repr, Nat.toList_repr, List.append_assoc]

theorem toList_late {tally : Tally} (some : tally.timedOut ≠ 0) :
    (late tally).toList =
      ',' :: ' ' :: (Nat.toDigits 10 tally.timedOut ++ " timed out".toList) := by
  simp only [late, if_neg some, String.toList_append, Nat.toString_eq_repr, Nat.toList_repr,
    List.append_assoc]
  rfl

/-! ## Reading a closing line -/

theorem digits_unique {n m : Nat} {rest other : List Char}
    (stops : rest.takeWhile Char.isDigit = []) (otherStops : other.takeWhile Char.isDigit = [])
    (same : Nat.toDigits 10 n ++ rest = Nat.toDigits 10 m ++ other) : n = m ∧ rest = other := by
  have read := Json.readDigits_toDigits n stops
  rw [same, Json.readDigits_toDigits m otherStops] at read
  simpa [eq_comm] using read

theorem stops_append {word : String} {rest : List Char} {c : Char}
    (first : word.toList.head? = some c) (other : c.isDigit = false) :
    (word.toList ++ rest).takeWhile Char.isDigit = [] := by
  obtain ⟨more, shape⟩ := List.head?_eq_some_iff.mp first
  rw [shape, List.cons_append, List.takeWhile_cons_of_neg (by simp [other])]

/-- What follows the failures begins with a comma if and only if there were timeouts. -/
theorem late_append_inj {first second : Tally} {rest other : List Char}
    (same : (late first).toList ++ (" in ".toList ++ rest) =
      (late second).toList ++ (" in ".toList ++ other)) :
    first.timedOut = second.timedOut ∧ rest = other := by
  have inside : " in ".toList = [' ', 'i', 'n', ' '] := rfl
  have none {tally : Tally} (zero : tally.timedOut = 0) : (late tally).toList = [] := by
    rw [late, if_pos zero, String.toList_empty]
  by_cases here : first.timedOut = 0
  · by_cases there : second.timedOut = 0
    · rw [none here, none there] at same
      exact ⟨here.trans there.symm, List.append_cancel_left same⟩
    · simp [none here, toList_late there, inside] at same
  · by_cases there : second.timedOut = 0
    · simp [none there, toList_late here, inside] at same
    · rw [toList_late here, toList_late there, List.cons_append, List.cons_append,
        List.cons_append, List.cons_append, List.cons.injEq, List.cons.injEq, List.append_assoc,
        List.append_assoc] at same
      obtain ⟨timedOut, same⟩ := digits_unique (stops_append rfl rfl) (stops_append rfl rfl)
        same.2.2
      exact ⟨timedOut, List.append_cancel_left (List.append_cancel_left same)⟩

theorem stopped_inj {first second : Summary}
    (same : (stopped first).toList = (stopped second).toList) :
    first.stoppedEarly = second.stoppedEarly := by
  have some : " (stopped after first failure)".toList ≠ "".toList := by decide
  unfold stopped at same
  cases here : first.stoppedEarly <;> cases there : second.stoppedEarly <;> simp_all

/-- Two summaries over the same time that have the same closing line count the same. -/
theorem closingLine_inj {first second : Summary} (duration : first.duration = second.duration)
    (same : closingLine first = closingLine second) :
    first.tally = second.tally ∧ first.stoppedEarly = second.stoppedEarly := by
  -- The parts are compared from left to right, each count up to the word behind it.
  have lines := congrArg String.toList same
  rw [toList_closingLine, toList_closingLine, duration] at lines
  obtain ⟨passed, lines⟩ := digits_unique (stops_append rfl rfl) (stops_append rfl rfl) lines
  obtain ⟨failed, lines⟩ := digits_unique (stops_append rfl rfl) (stops_append rfl rfl)
    (List.append_cancel_left lines)
  obtain ⟨timedOut, lines⟩ := late_append_inj (List.append_cancel_left lines)
  have stops := stopped_inj (List.append_cancel_left (List.append_cancel_left lines))
  refine ⟨?_, stops⟩
  cases tally : first.tally
  cases other : second.tally
  simp_all

/-! ## Parts that may be missing -/

theorem lowercase_closingLine (summary : Summary) :
    Text.Lowercase (closingLine summary).toList := by
  have passed : Text.Lowercase " passed, ".toList := by decide
  have failed : Text.Lowercase " failed".toList := by decide
  have duration : Text.Lowercase " in ".toList := by decide
  have second : Text.Lowercase "s".toList := by decide
  have timeouts : Text.Lowercase (late summary.tally).toList := by
    by_cases zero : summary.tally.timedOut = 0
    · simp [late, zero]
    · have word : Text.Lowercase " timed out".toList := by decide
      have comma : Text.Lowercase ", ".toList := by decide
      simp only [late, if_neg zero, String.toList_append, Text.lowercase_append,
        Text.lowercase_toString, word, comma, and_self]
  have stops : Text.Lowercase (stopped summary).toList := by
    unfold stopped
    split <;> decide
  simp only [toList_closingLine, Text.lowercase_append, Text.lowercase_toDigits,
    Text.lowercase_showSeconds, passed, failed, duration, second, timeouts, stops, and_self]

theorem mem_closingLine {c : Char} (noDigit : c.isDigit = false) (noPoint : c ≠ '.')
    (noLetter : c ∉ " passed, failed in s".toList) (summary : Summary) :
    c ∈ (closingLine summary).toList ↔
      c ∈ (late summary.tally).toList ∨ c ∈ (stopped summary).toList := by
  have missing {word : String} (usual : word.toList ⊆ " passed, failed in s".toList) :
      c ∉ word.toList := fun member => noLetter (usual member)
  rw [toList_closingLine]
  simp only [List.mem_append, Text.not_mem_toDigits noDigit,
    Text.not_mem_showSeconds noDigit noPoint, false_or, @missing " passed, " (by decide),
    @missing " failed" (by decide), @missing " in " (by decide), @missing "s" (by decide)]

theorem infix_late {summary : Summary} :
    " timed out".toList <:+: (closingLine summary).toList ↔ summary.tally.timedOut ≠ 0 := by
  constructor
  · intro present zero
    -- Without timeouts there is nothing with an `m` in it.
    have letter : 'm' ∈ (closingLine summary).toList := present.subset (by decide)
    rw [mem_closingLine (by decide) (by decide) (by decide), late, if_pos zero, stopped] at letter
    revert letter
    split <;> decide
  · intro some
    rw [toList_closingLine, toList_late some]
    refine ⟨Nat.toDigits 10 summary.tally.passed ++ " passed, ".toList ++
      Nat.toDigits 10 summary.tally.failed ++ " failed".toList ++
      ',' :: ' ' :: Nat.toDigits 10 summary.tally.timedOut, " in ".toList ++
      (summary.duration.showSeconds.toList ++ ("s".toList ++ (stopped summary).toList)), ?_⟩
    simp only [List.append_assoc, List.cons_append]

theorem infix_stopped {summary : Summary} :
    " (stopped after first failure)".toList <:+: (closingLine summary).toList ↔
      summary.stoppedEarly = true := by
  constructor
  · intro present
    have bracket : '(' ∈ (closingLine summary).toList := present.subset (by decide)
    rw [mem_closingLine (by decide) (by decide) (by decide)] at bracket
    by_contra goesOn
    -- No other part has a bracket in it.
    have none : '(' ∉ (stopped summary).toList := by
      rw [stopped, if_neg goesOn]
      decide
    have early : '(' ∉ (late summary.tally).toList := by
      by_cases zero : summary.tally.timedOut = 0
      · rw [late, if_pos zero]
        decide
      · simp [toList_late zero, Text.not_mem_toDigits]
    exact bracket.elim early none
  · intro stops
    have whole := toList_closingLine summary
    simp only [← List.append_assoc] at whole
    rw [whole, stopped, if_pos stops]
    exact (List.suffix_append ..).isInfix

end Conformance.Console
