import Conformance.Proofs.Json
import Conformance.Proofs.Rounding
import Conformance.Report.Console

/-! # Seconds as they are shown

A span is shown in seconds with two decimals after three roundings to 53 significant bits, of the
whole seconds, of the rest and of their sum, and one to hundredths.

Each of the four follows the order, but that all of them together do is more than that: the rest
must not reach the next second, and where the seconds are so large that they are rounded
themselves, it must not matter (`hundredths_mono`).  Whole hundredths survive the roundings
(`hundredths_of_exact`), so what is shown of a span in between cannot leave the two around it
(`hundredths_enclosed`).
-/

namespace Conformance.Duration

open Rounding

/-- The nanoseconds of a span. -/
def nanos (d : Duration) : Nat := d.seconds * nanosPerSecond + d.nanoseconds

/-- The whole seconds as a double. -/
def wholePart (d : Duration) : Nat := toSignificant (d.seconds * one) 1

/-- The rest of a second as a double. -/
def restPart (d : Duration) : Nat := toSignificant (d.nanoseconds * one) nanosPerSecond

theorem binarySeconds_eq (d : Duration) :
    d.binarySeconds = toSignificant (d.wholePart + d.restPart) 1 := rfl

theorem nanosPerSecond_pos : 0 < nanosPerSecond := by decide

theorem one_pos : 0 < one := by decide

theorem representable_seconds {seconds : Nat} (bound : seconds ≤ 2 ^ significantBits) :
    Representable (seconds * one) := representable_of_le bound fractionBits

theorem wholePart_eq {d : Duration} (bound : d.seconds ≤ 2 ^ significantBits) :
    d.wholePart = d.seconds * one := by
  have exact := toSignificant_of_representable Nat.one_pos (representable_seconds bound)
  rwa [Nat.mul_one] at exact

theorem wholePart_representable (d : Duration) : Representable d.wholePart :=
  (toSignificant_roundsTo _ Nat.one_pos).onGrid

theorem le_wholePart {d : Duration} {seconds : Nat} (bound : seconds ≤ 2 ^ significantBits)
    (ordered : seconds ≤ d.seconds) : seconds * one ≤ d.wholePart := by
  apply le_toSignificant Nat.one_pos (representable_seconds bound)
  rw [Nat.mul_one]
  exact Nat.mul_le_mul_right one ordered

theorem restPart_lt (d : Duration) : d.restPart < one := by
  -- The last number before one that has 53 significant bits is nearer to one than any number of
  -- nanoseconds.
  have before : Representable ((2 ^ significantBits - 1) * 2 ^ 31) :=
    representable_of_le (by decide) 31
  have subsecond := d.subsecond
  have bound : d.restPart ≤ (2 ^ significantBits - 1) * 2 ^ 31 := by
    apply toSignificant_le nanosPerSecond_pos before
    calc d.nanoseconds * one ≤ (nanosPerSecond - 1) * one := Nat.mul_le_mul_right one (by omega)
      _ ≤ (2 ^ significantBits - 1) * 2 ^ 31 * nanosPerSecond := by decide
  exact Nat.lt_of_le_of_lt bound (by decide)

/-! ## Order -/

theorem wholePart_mono {d d' : Duration} (ordered : d.seconds ≤ d'.seconds) :
    d.wholePart ≤ d'.wholePart :=
  toSignificant_mono Nat.one_pos (Nat.mul_le_mul_right one ordered)

theorem wholePart_le (d : Duration) : d.wholePart ≤ d.binarySeconds := by
  apply le_toSignificant Nat.one_pos d.wholePart_representable
  rw [Nat.mul_one]
  exact Nat.le_add_right d.wholePart d.restPart

/-- Seconds from `2 ^ 53` on are too large for a rest to matter. -/
theorem binarySeconds_of_large {d : Duration} (large : 2 ^ significantBits ≤ d.seconds) :
    d.binarySeconds = d.wholePart := by
  have lower : 2 ^ (significantBits + fractionBits) ≤ d.wholePart := by
    rw [Nat.pow_add]
    exact le_wholePart (Nat.le_refl _) large
  exact toSignificant_absorbs d.wholePart_representable lower d.restPart_lt

theorem binarySeconds_mono_of_lt {d d' : Duration} (earlier : d.seconds < d'.seconds) :
    d.binarySeconds ≤ d'.binarySeconds := by
  apply Nat.le_trans _ d'.wholePart_le
  rcases Nat.lt_or_ge d.seconds (2 ^ significantBits) with small | large
  · -- The rest does not reach the next second.
    have next : (d.seconds + 1) * one ≤ d'.wholePart := le_wholePart small earlier
    have rest := d.restPart_lt
    apply toSignificant_le Nat.one_pos d'.wholePart_representable
    change d.wholePart + d.restPart ≤ d'.wholePart * 1
    rw [wholePart_eq (Nat.le_of_lt small)]
    rw [Nat.add_mul, Nat.one_mul] at next
    omega
  · rw [binarySeconds_of_large large]
    exact wholePart_mono (Nat.le_of_lt earlier)

theorem binarySeconds_mono {d d' : Duration} (ordered : d.nanos ≤ d'.nanos) :
    d.binarySeconds ≤ d'.binarySeconds := by
  have subsecond := d.subsecond
  have subsecond' := d'.subsecond
  rcases Nat.lt_trichotomy d.seconds d'.seconds with earlier | same | later
  · exact binarySeconds_mono_of_lt earlier
  · have rest : d.restPart ≤ d'.restPart := by
      apply toSignificant_mono nanosPerSecond_pos
      apply Nat.mul_le_mul_right
      simpa [nanos, same] using ordered
    have whole : d.wholePart = d'.wholePart := by rw [wholePart, wholePart, same]
    apply toSignificant_mono Nat.one_pos
    change d.wholePart + d.restPart ≤ d'.wholePart + d'.restPart
    omega
  · -- A later second is more nanoseconds.
    have more := Nat.mul_le_mul_right nanosPerSecond later
    simp only [nanos] at ordered
    rw [Nat.succ_mul] at more
    omega

/-- Showing spans does not change their order. -/
theorem hundredths_mono {d d' : Duration} (ordered : d.nanos ≤ d'.nanos) :
    d.hundredths ≤ d'.hundredths := by
  have scaled := Nat.mul_le_mul_right 100 (binarySeconds_mono ordered)
  exact (nearest_roundsTo _ one_pos).le one_pos (nearest_roundsTo _ one_pos) scaled

/-! ## Units -/

theorem multiple_fine {den : Nat} (fine : den * 2 ^ 52 ≤ one) (count : Nat) :
    count * one = 0 ∨ den * 2 ^ 52 ≤ count * one := by
  rcases Nat.eq_zero_or_pos count with zero | some
  · exact .inl (by rw [zero, Nat.zero_mul])
  · exact .inr (Nat.le_trans fine (Nat.le_mul_of_pos_left one some))

theorem seconds_fine (d : Duration) : d.seconds * one = 0 ∨ 1 * 2 ^ 52 ≤ d.seconds * one :=
  multiple_fine (by decide) d.seconds

theorem nanoseconds_fine (d : Duration) :
    d.nanoseconds * one = 0 ∨ nanosPerSecond * 2 ^ 52 ≤ d.nanoseconds * one :=
  multiple_fine (by decide) d.nanoseconds

theorem sum_fine (d : Duration) :
    d.wholePart + d.restPart = 0 ∨ 1 * 2 ^ 52 ≤ d.wholePart + d.restPart := by
  have power : Representable (1 * 2 ^ 52) := representable_of_le (by decide) 52
  rcases d.seconds_fine with noSeconds | seconds
  · rcases d.nanoseconds_fine with noRest | rest
    · left
      rw [wholePart, restPart, noSeconds, noRest]
      decide
    · have bound : 1 * 2 ^ 52 ≤ d.restPart :=
        le_toSignificant nanosPerSecond_pos power (by rwa [Nat.one_mul, Nat.mul_comm])
      omega
  · have bound : 1 * 2 ^ 52 ≤ d.wholePart :=
      le_toSignificant Nat.one_pos power (by rwa [Nat.mul_one])
    omega

/-! ## Hundredths -/

/-- Nanoseconds in a hundredth of a second. -/
def nanosPerHundredth : Nat := 10000000

theorem two_dist_le {a b bound : Nat} :
    2 * Nat.dist a b ≤ bound ↔ 2 * a ≤ 2 * b + bound ∧ 2 * b ≤ 2 * a + bound := by
  rw [Nat.dist]
  omega

theorem restPart_error (d : Duration) :
    2 * (d.restPart * nanosPerSecond) ≤ 2 * (d.nanoseconds * one) + nanosPerSecond * 2 ^ 31 ∧
    2 * (d.nanoseconds * one) ≤ 2 * (d.restPart * nanosPerSecond) + nanosPerSecond * 2 ^ 31 := by
  apply two_dist_le.mp
  apply toSignificant_error nanosPerSecond_pos
  exact Nat.mul_lt_mul_of_pos_right d.subsecond one_pos

theorem binarySeconds_error {d : Duration} (bound : d.seconds < 2 ^ 40) :
    2 * d.binarySeconds ≤ 2 * (d.seconds * one + d.restPart) + 2 ^ 71 ∧
    2 * (d.seconds * one + d.restPart) ≤ 2 * d.binarySeconds + 2 ^ 71 := by
  have whole : d.wholePart = d.seconds * one :=
    wholePart_eq (Nat.le_trans (Nat.le_of_lt bound) (by decide))
  have rest := d.restPart_lt
  have seconds : (d.seconds + 1) * one ≤ 2 ^ 40 * one := Nat.mul_le_mul_right one bound
  have small : d.wholePart + d.restPart < 1 * 2 ^ (significantBits + 71) := by
    have unit : 2 ^ 40 * one = 1 * 2 ^ (significantBits + 71) := by decide
    rw [← unit, whole]
    rw [Nat.add_mul, Nat.one_mul] at seconds
    omega
  have error := two_dist_le.mp (toSignificant_error Nat.one_pos small)
  rwa [← binarySeconds_eq, whole, Nat.mul_one, Nat.one_mul] at error

theorem hundredths_of_exact {d : Duration} (bound : d.seconds < 2 ^ 40) {rest : Nat}
    (exact : d.nanoseconds = rest * nanosPerHundredth) :
    d.hundredths = d.seconds * 100 + rest := by
  have ofRest := d.restPart_error
  have ofSum := binarySeconds_error bound
  have ofShown := two_dist_le.mp (nearest_error (d.binarySeconds * 100) one_pos)
  rw [exact] at ofRest
  change 2 * (d.hundredths * one) ≤ _ ∧ _ ≤ 2 * (d.hundredths * one) + one at ofShown
  have unit : one = 2 ^ 84 := rfl
  -- The three errors together do not come near half a hundredth, and all of it is linear.
  generalize d.hundredths = shown at *
  generalize d.binarySeconds = sum at *
  generalize d.restPart = part at *
  simp only [unit, nanosPerSecond, nanosPerHundredth] at ofRest ofSum ofShown
  omega

/-- A span of whole hundredths. -/
def ofHundredths (count : Nat) : Duration :=
  ⟨count / 100, count % 100 * nanosPerHundredth, by
    rw [nanosPerSecond, nanosPerHundredth]
    omega⟩

theorem nanos_ofHundredths (count : Nat) :
    (ofHundredths count).nanos = count * nanosPerHundredth := by
  simp only [ofHundredths, nanos, nanosPerSecond, nanosPerHundredth]
  omega

theorem hundredths_ofHundredths {count : Nat} (bound : count < 2 ^ 40 * 100) :
    (ofHundredths count).hundredths = count := by
  have seconds : (ofHundredths count).seconds < 2 ^ 40 := by
    simp only [ofHundredths]
    omega
  rw [hundredths_of_exact seconds rfl]
  simp only [ofHundredths]
  omega

theorem hundredths_enclosed {d : Duration} (bound : d.seconds < 2 ^ 40 - 1) :
    d.nanos / nanosPerHundredth ≤ d.hundredths ∧
    d.hundredths ≤ (d.nanos + (nanosPerHundredth - 1)) / nanosPerHundredth := by
  have subsecond := d.subsecond
  have low : d.nanos / nanosPerHundredth < 2 ^ 40 * 100 := by
    simp only [nanos, nanosPerSecond, nanosPerHundredth] at subsecond ⊢
    omega
  have high : (d.nanos + (nanosPerHundredth - 1)) / nanosPerHundredth < 2 ^ 40 * 100 := by
    simp only [nanos, nanosPerSecond, nanosPerHundredth] at subsecond ⊢
    omega
  -- The hundredths around the span are shown as they are, and showing follows the order.
  constructor
  · rw [← hundredths_ofHundredths low]
    apply hundredths_mono
    rw [nanos_ofHundredths]
    exact Nat.div_mul_le_self ..
  · rw [← hundredths_ofHundredths high]
    apply hundredths_mono
    rw [nanos_ofHundredths, nanosPerHundredth]
    omega

/-! ## Text -/

/-- A text is a number with two digits after the point and no superfluous zero before it. -/
structure TwoDecimals (text : String) (whole : List Char) (tenths hundredths : Char) : Prop where
  shape : text.toList = whole ++ ['.', tenths, hundredths]
  digits : ∀ c ∈ whole ++ [tenths, hundredths], c.isDigit = true
  nonempty : whole ≠ []
  leading : whole.head? = some '0' → whole = ['0']

/-- Below one hundred, a zero in front makes two digits of one. -/
theorem toList_twoDigits {rest : Nat} (bound : rest < 100) :
    (if rest < 10 then "0" else "").toList ++ (toString rest).toList =
      [(rest / 10).digitChar, (rest % 10).digitChar] := by
  rw [Nat.toString_eq_repr, Nat.toList_repr]
  by_cases single : rest < 10
  · have tens : rest / 10 = 0 := by omega
    have units : rest % 10 = rest := by omega
    rw [if_pos single, Nat.toDigits_of_lt_base single, tens, units]
    rfl
  · have tens : rest / 10 < 10 := by omega
    rw [if_neg single, Nat.toDigits_of_base_le (by decide) (by omega),
      Nat.toDigits_of_lt_base tens]
    rfl

theorem showHundredths_twoDecimals (n : Nat) :
    ∃ whole tenths hundredths, TwoDecimals (showHundredths n) whole tenths hundredths ∧
      Nat.ofDigitChars 10 (whole ++ [tenths, hundredths]) 0 = n := by
  have digit {k : Nat} (small : k < 10) : k.digitChar.isDigit = true := by
    revert k
    decide
  have tens : n % 100 / 10 < 10 := by omega
  have units : n % 100 % 10 < 10 := by omega
  refine ⟨Nat.toDigits 10 (n / 100), (n % 100 / 10).digitChar, (n % 100 % 10).digitChar,
    ⟨?_, ?_, Nat.toDigits_ne_nil, ?_⟩, ?_⟩
  · have rest := toList_twoDigits (Nat.mod_lt n (by decide : 0 < 100))
    simp only [showHundredths, String.toList_append, List.append_assoc]
    rw [rest, Nat.toString_eq_repr, Nat.toList_repr]
    rfl
  · intro c member
    rw [List.mem_append] at member
    rcases member with whole | rest
    · exact Nat.isDigit_of_mem_toDigits (by decide) (by decide) whole
    · simp only [List.mem_cons, List.not_mem_nil, or_false] at rest
      rcases rest with rfl | rfl
      · exact digit tens
      · exact digit units
  · intro zero
    rw [Json.eq_zero_of_head?_toDigits zero]
    exact Nat.toDigits_zero 10
  · rw [Nat.ofDigitChars_append, Nat.ofDigitChars_ten_toDigits,
      Nat.ofDigitChars_cons_digitChar_of_lt_ten tens,
      Nat.ofDigitChars_cons_digitChar_of_lt_ten units, Nat.ofDigitChars_nil]
    omega

/-- Seconds are shown faithfully.  What is shown is the span after three roundings of doubles,
    which are the same in every finer unit, and one to hundredths, each to nearest and to even, in
    a text with two digits after the point.
    It follows the order of the spans.  Below `2 ^ 40` seconds whole hundredths are shown as they
    are, and every other span as one of the two hundredths that enclose it.  The same text stands
    in the closing line of a report and in the label of a timeout. -/
theorem showSeconds_faithful :
    (∀ d : Duration, ∃ whole rest, ∀ finer,
      RoundsTo Representable (d.seconds * one * 2 ^ finer) 1 (whole * 2 ^ finer) ∧
      RoundsTo Representable (d.nanoseconds * one * 2 ^ finer) nanosPerSecond (rest * 2 ^ finer) ∧
      RoundsTo Representable ((whole + rest) * 2 ^ finer) 1 (d.binarySeconds * 2 ^ finer) ∧
      RoundsTo (fun _ => True) (d.binarySeconds * 100) one d.hundredths) ∧
    (∀ d : Duration, ∃ whole tenths hundredths,
      TwoDecimals d.showSeconds whole tenths hundredths ∧
      Nat.ofDigitChars 10 (whole ++ [tenths, hundredths]) 0 = d.hundredths) ∧
    (∀ d d' : Duration, d.nanos ≤ d'.nanos → d.hundredths ≤ d'.hundredths) ∧
    (∀ d : Duration, d.seconds < 2 ^ 40 → nanosPerHundredth ∣ d.nanoseconds →
      d.hundredths * nanosPerHundredth = d.nanos) ∧
    (∀ d : Duration, d.seconds < 2 ^ 40 - 1 →
      d.hundredths = d.nanos / nanosPerHundredth ∨
      d.hundredths = (d.nanos + (nanosPerHundredth - 1)) / nanosPerHundredth) ∧
    (∀ summary : Summary, ∃ before after, Console.closingLine summary =
      before ++ " in " ++ summary.duration.showSeconds ++ "s" ++ after) ∧
    ∀ invocation : Invocation, invocation.timedOut = true →
      invocation.label = "timed out after " ++ invocation.duration.showSeconds ++ "s" := by
  refine ⟨?_, fun d => showHundredths_twoDecimals d.hundredths, fun _ _ => hundredths_mono, ?_, ?_,
    fun summary => ⟨_, _, rfl⟩, fun _ late => if_pos late⟩
  · intro d
    refine ⟨d.wholePart, d.restPart, fun finer => ⟨?_, ?_, ?_, nearest_roundsTo _ one_pos⟩⟩
    · exact toSignificant_roundsTo_scaled finer Nat.one_pos d.seconds_fine
    · exact toSignificant_roundsTo_scaled finer nanosPerSecond_pos d.nanoseconds_fine
    · exact toSignificant_roundsTo_scaled finer Nat.one_pos d.sum_fine
  · rintro d bound ⟨rest, exact⟩
    rw [Nat.mul_comm] at exact
    rw [hundredths_of_exact bound exact, nanos, exact, nanosPerSecond, nanosPerHundredth]
    omega
  · intro d bound
    have enclosed := hundredths_enclosed bound
    rw [nanosPerHundredth] at enclosed ⊢
    omega

theorem tiedHundredth_shown :
    let tied : Duration := { nanoseconds := 125000000 }
    let latest : Duration := { seconds := 2 ^ 40 - 1, nanoseconds := 990000000 }
    tied.hundredths = 12 ∧
    (tied.hundredths = tied.nanos / nanosPerHundredth ∨
      tied.hundredths = (tied.nanos + (nanosPerHundredth - 1)) / nanosPerHundredth) ∧
    tied.hundredths ≤ latest.hundredths ∧
    latest.hundredths * nanosPerHundredth = latest.nanos := by
  intro tied latest
  obtain ⟨-, -, ordered, exact, enclosed, -, -⟩ := showSeconds_faithful
  exact ⟨by decide +kernel, enclosed tied (by decide), ordered tied latest (by decide +kernel),
    exact latest (by decide) (by decide)⟩

end Conformance.Duration
