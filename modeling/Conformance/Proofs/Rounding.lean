import Conformance.Rounding
import Mathlib.Data.Nat.Dist
import Mathlib.Tactic.Ring

/-! # What rounding to nearest does

A quotient is rounded to a grid of numbers: to the number of the grid that is nearest to it, and
in a tie to the one that is an even multiple of the distance between the two (`RoundsTo`).  This
says which number it is, so rounding follows the order of the quotients (`RoundsTo.le`) and
changes no number of the grid (`RoundsTo.eq_of_grid`).

`nearest` rounds to the integers in this sense, and `toSignificant` to the numbers with 53
significant bits.  Between two neighbours of these the step is a power of two, and every number
of the grid from the lower one on is a multiple of it (`Representable.dvd`).
-/

namespace Conformance.Rounding

/-! ## Rounding to a grid -/

/-- `rounded` is the number of a grid nearest to `num / den`.  Of two that are equally near it is
    the one that is an even multiple of their distance. -/
structure RoundsTo (grid : Nat → Prop) (num den rounded : Nat) : Prop where
  onGrid : grid rounded
  nearest : ∀ other, grid other →
    Nat.dist (rounded * den) num ≤ Nat.dist (other * den) num
  even : ∀ other, grid other → other ≠ rounded →
    Nat.dist (other * den) num = Nat.dist (rounded * den) num → 2 * Nat.dist other rounded ∣ rounded

variable {grid : Nat → Prop} {num num' den rounded rounded' : Nat}

/-- Of two different numbers, not both are even multiples of their distance. -/
theorem not_both_even {low high : Nat} (below : low < high) (lowEven : 2 * Nat.dist high low ∣ low)
    (highEven : 2 * Nat.dist low high ∣ high) : False := by
  have distance : Nat.dist low high = high - low := by
    simp only [Nat.dist]
    omega
  rw [Nat.dist_comm, distance] at lowEven
  rw [distance] at highEven
  have divides : 2 * (high - low) ∣ high - low := Nat.dvd_sub highEven lowEven
  have := Nat.le_of_dvd (by omega) divides
  omega

/-- Rounding follows the order of the quotients. -/
theorem RoundsTo.le (positive : 0 < den) (rounds : RoundsTo grid num den rounded)
    (rounds' : RoundsTo grid num' den rounded') (ordered : num ≤ num') : rounded ≤ rounded' := by
  by_contra above
  have below : rounded' < rounded := by omega
  have scaled : rounded' * den < rounded * den := Nat.mul_lt_mul_of_pos_right below positive
  have near := rounds.nearest rounded' rounds'.onGrid
  have near' := rounds'.nearest rounded rounds.onGrid
  -- One quotient is not below the middle and the other not above it, so both are in the middle.
  have tie : Nat.dist (rounded' * den) num = Nat.dist (rounded * den) num := by
    simp only [Nat.dist] at near near' ⊢
    omega
  have tie' : Nat.dist (rounded * den) num' = Nat.dist (rounded' * den) num' := by
    simp only [Nat.dist] at near near' ⊢
    omega
  exact not_both_even below (rounds'.even rounded rounds.onGrid (by omega) tie')
    (rounds.even rounded' rounds'.onGrid (by omega) tie)

theorem RoundsTo.eq_of_grid (positive : 0 < den) {exact : Nat}
    (rounds : RoundsTo grid (exact * den) den rounded) (onGrid : grid exact) :
    rounded = exact := by
  have near := rounds.nearest exact onGrid
  rw [Nat.dist_self, Nat.le_zero] at near
  exact Nat.eq_of_mul_eq_mul_right positive (Nat.eq_of_dist_eq_zero near)

/-! ## Integers -/

theorem nearest_cases (num den : Nat) :
    (nearest num den = num / den ∧ 2 * (num % den) ≤ den ∧
      (2 * (num % den) = den → num / den % 2 = 0)) ∨
    (nearest num den = num / den + 1 ∧ den ≤ 2 * (num % den) ∧
      (2 * (num % den) = den → (num / den + 1) % 2 = 0)) := by
  simp only [nearest]
  split
  · left
    omega
  · split
    · right
      omega
    · -- The tie, which goes to the even neighbour.
      split
      · left
        omega
      · right
        omega

theorem nearest_error (num : Nat) (positive : 0 < den) :
    2 * Nat.dist (nearest num den * den) num ≤ den := by
  have division := Nat.div_add_mod num den
  have remainder := Nat.mod_lt num positive
  rw [Nat.mul_comm] at division
  obtain ⟨same, near, -⟩ | ⟨same, near, -⟩ := nearest_cases num den
  · rw [same, Nat.dist]
    omega
  · rw [same, Nat.add_mul, Nat.one_mul, Nat.dist]
    omega

theorem dist_neighbours (low step : Nat) : Nat.dist (low * step) ((low + 1) * step) = step := by
  rw [Nat.add_mul, Nat.one_mul, Nat.dist]
  omega

/-- If no number of a grid lies between two neighbouring multiples of a step, rounding to the
    multiples is rounding to the grid. -/
theorem roundsTo_of_step {step : Nat} (positive : 0 < den) (stepPositive : 0 < step)
    (onGrid : grid (nearest num (den * step) * step))
    (gap : ∀ other, grid other →
      other ≤ num / (den * step) * step ∨ (num / (den * step) + 1) * step ≤ other) :
    RoundsTo grid num den (nearest num (den * step) * step) := by
  have division := Nat.div_add_mod num (den * step)
  have remainder := Nat.mod_lt num (Nat.mul_pos positive stepPositive)
  have cases := nearest_cases num (den * step)
  generalize num / (den * step) = low at *
  generalize num % (den * step) = rest at *
  generalize nearest num (den * step) = chosen at *
  -- All distances are taken after multiplication by `den`.
  have lower : low * step * den = den * step * low := by ring
  have upper : (low + 1) * step * den = den * step * low + den * step := by ring
  have side {other : Nat} (member : grid other) :
      other * den ≤ low * step * den ∨ (low + 1) * step * den ≤ other * den :=
    (gap other member).imp (Nat.mul_le_mul_right den) (Nat.mul_le_mul_right den)
  have cancel {other neighbour : Nat} (same : other * den = neighbour * den) :
      other = neighbour := Nat.eq_of_mul_eq_mul_right positive same
  obtain ⟨same, near, tie⟩ | ⟨same, near, tie⟩ := cases <;> rw [same] at onGrid ⊢
  · refine ⟨onGrid, ?_, ?_⟩
    · intro other member
      have := side member
      simp only [Nat.dist]
      omega
    · intro other member different equal
      have apart := mt cancel different
      simp only [Nat.dist] at equal
      have isUpper : other * den = (low + 1) * step * den := by
        have := side member
        omega
      rw [cancel isUpper, Nat.dist_comm, dist_neighbours]
      have even := tie (by omega)
      exact Nat.mul_dvd_mul_right (Nat.dvd_of_mod_eq_zero even) step
  · refine ⟨onGrid, ?_, ?_⟩
    · intro other member
      have := side member
      simp only [Nat.dist]
      omega
    · intro other member different equal
      have apart := mt cancel different
      simp only [Nat.dist] at equal
      have isLower : other * den = low * step * den := by
        have := side member
        omega
      rw [cancel isLower, dist_neighbours]
      have even := tie (by omega)
      exact Nat.mul_dvd_mul_right (Nat.dvd_of_mod_eq_zero even) step

theorem nearest_roundsTo (num : Nat) (positive : 0 < den) :
    RoundsTo (fun _ => True) num den (nearest num den) := by
  have rounds := @roundsTo_of_step (fun _ => True) num den 1 positive Nat.one_pos trivial
    fun other _ => by omega
  simpa only [Nat.mul_one] using rounds

/-! ## Significant bits -/

/-- A number with at most 53 significant bits. -/
def Representable (n : Nat) : Prop :=
  ∃ mantissa exponent, mantissa < 2 ^ significantBits ∧ n = mantissa * 2 ^ exponent

/-- A number with 53 significant bits is a multiple of the value of the last of them. -/
theorem Representable.dvd {n exponent : Nat} (representable : Representable n)
    (large : 2 ^ (52 + exponent) ≤ n) : 2 ^ exponent ∣ n := by
  obtain ⟨mantissa, own, bound, rfl⟩ := representable
  have powers : 2 ^ (52 + exponent) < 2 ^ (53 + own) := by
    calc 2 ^ (52 + exponent) ≤ mantissa * 2 ^ own := large
      _ < 2 ^ 53 * 2 ^ own := Nat.mul_lt_mul_of_pos_right bound (Nat.two_pow_pos own)
      _ = 2 ^ (53 + own) := (Nat.pow_add 2 53 own).symm
  have exponents := (Nat.pow_lt_pow_iff_right (by decide)).mp powers
  exact (Nat.pow_dvd_pow 2 (by omega : exponent ≤ own)).mul_left mantissa

theorem representable_of_le {mantissa : Nat} (bound : mantissa ≤ 2 ^ significantBits)
    (exponent : Nat) : Representable (mantissa * 2 ^ exponent) := by
  rcases Nat.lt_or_eq_of_le bound with less | rfl
  · exact ⟨mantissa, exponent, less, rfl⟩
  · refine ⟨1, significantBits + exponent, by decide, ?_⟩
    rw [Nat.one_mul, Nat.pow_add]

/-- The exponent of the last significant bit of `num / den`. -/
def lastExponent (num den : Nat) : Nat := (num / den).log2 + 1 - significantBits

theorem toSignificant_eq (num den : Nat) :
    toSignificant num den =
      nearest num (den * 2 ^ lastExponent num den) * 2 ^ lastExponent num den := rfl

theorem mantissa_lt (num den : Nat) :
    num / (den * 2 ^ lastExponent num den) < 2 ^ significantBits := by
  rw [← Nat.div_div_eq_div_mul, Nat.div_lt_iff_lt_mul (Nat.two_pow_pos _), ← Nat.pow_add]
  calc num / den < 2 ^ ((num / den).log2 + 1) := Nat.lt_log2_self
    _ ≤ 2 ^ (significantBits + lastExponent num den) :=
      Nat.pow_le_pow_right (by decide) (by rw [lastExponent]; omega)

theorem le_mantissa {num den : Nat} (scaled : lastExponent num den ≠ 0) :
    2 ^ 52 ≤ num / (den * 2 ^ lastExponent num den) := by
  have exponent : (num / den).log2 = 52 + lastExponent num den := by
    simp only [lastExponent, significantBits] at scaled ⊢
    omega
  have nonzero : num / den ≠ 0 := by
    intro zero
    rw [zero, Nat.log2_zero] at exponent
    omega
  rw [← Nat.div_div_eq_div_mul, Nat.le_div_iff_mul_le (Nat.two_pow_pos _), ← Nat.pow_add,
    ← exponent]
  exact Nat.log2_self_le nonzero

theorem toSignificant_roundsTo (num : Nat) (positive : 0 < den) :
    RoundsTo Representable num den (toSignificant num den) := by
  have less := mantissa_lt num den
  have normal := @le_mantissa num den
  have chosen := nearest_cases num (den * 2 ^ lastExponent num den)
  rw [toSignificant_eq]
  apply roundsTo_of_step positive (Nat.two_pow_pos _)
  · exact representable_of_le (by omega) _
  · intro other representable
    generalize num / (den * 2 ^ lastExponent num den) = low at *
    generalize lastExponent num den = exponent at *
    rcases Nat.lt_or_ge (low * 2 ^ exponent) other with above | below
    · right
      -- Without an exponent the step is one, and there is nothing between two integers.
      by_cases unscaled : exponent = 0
      · rw [unscaled] at above ⊢
        omega
      · -- A number of the grid above the lower neighbour is a multiple of the step as well.
        have large : 2 ^ (52 + exponent) ≤ low * 2 ^ exponent := by
          rw [Nat.pow_add]
          exact Nat.mul_le_mul_right _ (normal unscaled)
        obtain ⟨factor, rfl⟩ := representable.dvd (Nat.le_trans large (Nat.le_of_lt above))
        rw [Nat.mul_comm low, Nat.mul_lt_mul_left (Nat.two_pow_pos _)] at above
        rw [Nat.mul_comm]
        exact Nat.mul_le_mul_left _ above
    · exact .inl below

theorem toSignificant_mono (positive : 0 < den) (ordered : num ≤ num') :
    toSignificant num den ≤ toSignificant num' den :=
  (toSignificant_roundsTo num positive).le positive (toSignificant_roundsTo num' positive) ordered

theorem toSignificant_of_representable {n : Nat} (positive : 0 < den)
    (representable : Representable n) : toSignificant (n * den) den = n :=
  (toSignificant_roundsTo (n * den) positive).eq_of_grid positive representable

theorem le_toSignificant {n : Nat} (positive : 0 < den) (representable : Representable n)
    (above : n * den ≤ num) : n ≤ toSignificant num den := by
  rw [← toSignificant_of_representable positive representable]
  exact toSignificant_mono positive above

theorem toSignificant_le {n : Nat} (positive : 0 < den) (representable : Representable n)
    (below : num ≤ n * den) : toSignificant num den ≤ n := by
  rw [← toSignificant_of_representable positive representable]
  exact toSignificant_mono positive below

/-- The error is at most half of the last significant bit. -/
theorem toSignificant_error {exponent : Nat} (positive : 0 < den)
    (small : num < den * 2 ^ (significantBits + exponent)) :
    2 * Nat.dist (toSignificant num den * den) num ≤ den * 2 ^ exponent := by
  have exponents : lastExponent num den ≤ exponent := by
    have quotient : num / den < 2 ^ (significantBits + exponent) := by
      rwa [Nat.div_lt_iff_lt_mul positive, Nat.mul_comm]
    by_cases zero : num / den = 0
    · rw [lastExponent, zero, Nat.log2_zero, significantBits]
      omega
    · have log := (Nat.log2_lt zero).mpr quotient
      rw [lastExponent]
      omega
  have regrouped : toSignificant num den * den =
      nearest num (den * 2 ^ lastExponent num den) * (den * 2 ^ lastExponent num den) := by
    rw [toSignificant_eq]
    ring
  rw [regrouped]
  calc 2 * Nat.dist _ num ≤ den * 2 ^ lastExponent num den :=
        nearest_error num (Nat.mul_pos positive (Nat.two_pow_pos _))
    _ ≤ den * 2 ^ exponent := Nat.mul_le_mul_left den (Nat.pow_le_pow_right (by decide) exponents)

/-- What is less than half of the last significant bit is lost in a sum. -/
theorem toSignificant_absorbs {n rest exponent : Nat} (representable : Representable n)
    (large : 2 ^ (significantBits + exponent) ≤ n) (small : rest < 2 ^ exponent) :
    toSignificant (n + rest) 1 = n := by
  have rounds := toSignificant_roundsTo (n + rest) Nat.one_pos
  have near := rounds.nearest n representable
  have onGrid := rounds.onGrid
  generalize toSignificant (n + rest) 1 = rounded at *
  have lastBit : 2 ^ (52 + (exponent + 1)) ≤ n := by
    have exponents : 52 + (exponent + 1) = significantBits + exponent := by
      rw [significantBits]
      omega
    rwa [exponents]
  simp only [Nat.dist, Nat.mul_one] at near
  rcases Nat.lt_trichotomy rounded n with below | same | above
  · omega
  · exact same
  · -- The next number of the grid is twice as far away as the half.
    have multiple := representable.dvd lastBit
    have multiple' := onGrid.dvd (Nat.le_trans lastBit (Nat.le_of_lt above))
    have apart := Nat.le_of_dvd (by omega) (Nat.dvd_sub multiple' multiple)
    rw [Nat.pow_succ] at apart
    omega

/-! ## Units -/

theorem nearest_scaled (num den : Nat) {factor : Nat} (positive : 0 < factor) :
    nearest (num * factor) (den * factor) = nearest num den := by
  have less (a b : Nat) : 2 * (a * factor) < b * factor ↔ 2 * a < b := by
    rw [← Nat.mul_assoc, Nat.mul_lt_mul_right positive]
  have less' (a b : Nat) : b * factor < 2 * (a * factor) ↔ b < 2 * a := by
    rw [← Nat.mul_assoc, Nat.mul_lt_mul_right positive]
  simp only [nearest, Nat.mul_div_mul_right _ _ positive, Nat.mul_mod_mul_right, less, less']

theorem log2_scaled {finer : Nat} (positive : 0 < den) (nonzero : num / den ≠ 0) :
    (num * 2 ^ finer / den).log2 = (num / den).log2 + finer := by
  have low := Nat.log2_self_le nonzero
  have high := @Nat.lt_log2_self (num / den)
  rw [Nat.le_div_iff_mul_le positive] at low
  rw [Nat.div_lt_iff_lt_mul positive] at high
  have scaledLow := Nat.mul_le_mul_right (2 ^ finer) low
  have scaledHigh := Nat.mul_lt_mul_of_pos_right high (Nat.two_pow_pos finer)
  rw [Nat.mul_right_comm, ← Nat.pow_add] at scaledLow scaledHigh
  rw [Nat.add_right_comm] at scaledHigh
  have bounds : 2 ^ ((num / den).log2 + finer) ≤ num * 2 ^ finer / den ∧
      num * 2 ^ finer / den < 2 ^ ((num / den).log2 + finer + 1) :=
    ⟨(Nat.le_div_iff_mul_le positive).mpr scaledLow,
      (Nat.div_lt_iff_lt_mul positive).mpr scaledHigh⟩
  have positiveBound := Nat.two_pow_pos ((num / den).log2 + finer)
  exact (Nat.log2_eq_iff (by omega)).mpr bounds

/-- Rounding does not depend on the unit, if that is fine enough for all significant bits. -/
theorem toSignificant_scaled (finer : Nat) (positive : 0 < den)
    (fine : num = 0 ∨ den * 2 ^ 52 ≤ num) :
    toSignificant (num * 2 ^ finer) den = toSignificant num den * 2 ^ finer := by
  rcases fine with rfl | fine
  · have zero : toSignificant 0 den ≤ 0 :=
      toSignificant_le positive ⟨0, 0, by decide, rfl⟩ (Nat.zero_le _)
    rw [Nat.zero_mul, Nat.le_zero.mp zero, Nat.zero_mul]
  · have quotient : 2 ^ 52 ≤ num / den := by
      rwa [Nat.le_div_iff_mul_le positive, Nat.mul_comm]
    have nonzero : num / den ≠ 0 := by omega
    have normal : 52 ≤ (num / den).log2 := (Nat.le_log2 nonzero).mpr quotient
    have exponent : lastExponent (num * 2 ^ finer) den = lastExponent num den + finer := by
      rw [lastExponent, lastExponent, log2_scaled positive nonzero, significantBits]
      omega
    rw [toSignificant_eq, toSignificant_eq, exponent, Nat.pow_add, ← Nat.mul_assoc den,
      nearest_scaled _ _ (Nat.two_pow_pos finer), Nat.mul_assoc]

theorem toSignificant_roundsTo_scaled (finer : Nat) (positive : 0 < den)
    (fine : num = 0 ∨ den * 2 ^ 52 ≤ num) :
    RoundsTo Representable (num * 2 ^ finer) den (toSignificant num den * 2 ^ finer) := by
  rw [← toSignificant_scaled finer positive fine]
  exact toSignificant_roundsTo _ positive

end Conformance.Rounding
