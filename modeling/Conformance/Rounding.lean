/-! # Rounding to nearest

Quotients of natural numbers rounded to the nearest integer, and to the nearest number
with 53 significant bits.  In both an exact tie goes to the even neighbour.  Numbers
with a fraction are held as multiples of a common unit `2 ^ -fractionBits`, so every
step is exact integer arithmetic.
-/

namespace Conformance.Rounding

/-- The integer nearest to `num / den`; a tie goes to the even one. -/
def nearest (num den : Nat) : Nat :=
  let low := num / den
  let twice := 2 * (num % den)
  if twice < den then low
  else if den < twice then low + 1
  else if low % 2 = 0 then low else low + 1

/-- How many significant bits a double precision number carries. -/
def significantBits : Nat := 53

/-- The number with 53 significant bits nearest to `num / den`.  Quotients below
    `2 ^ 53` are rounded to an integer, so a quotient with a fraction has to be given
    in units small enough for its leading bit to lie above that. -/
def toSignificant (num den : Nat) : Nat :=
  let scale := Nat.pow 2 ((num / den).log2 + 1 - significantBits)
  nearest num (den * scale) * scale

/-- The bits below the binary point that doubles of one nanosecond and more need: the
    smallest, one billionth, has its leading bit at `2 ^ -30` and 52 more after it. -/
def fractionBits : Nat := 84

/-- One, in units of `2 ^ -fractionBits`. -/
def one : Nat := Nat.pow 2 fractionBits

end Conformance.Rounding
