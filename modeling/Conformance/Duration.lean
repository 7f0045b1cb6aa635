import Conformance.Rounding

/-! # Durations

A span of time in whole seconds and nanoseconds, and its three printed forms: whole
milliseconds, whole milliseconds as a 64-bit word, and seconds with two decimals.
-/

namespace Conformance

/-- Nanoseconds in a second. -/
def nanosPerSecond : Nat := 1000000000

/-- A span of time. -/
structure Duration where
  seconds : Nat := 0
  nanoseconds : Nat := 0
  subsecond : nanoseconds < nanosPerSecond := by decide
deriving DecidableEq

namespace Duration

/-- No time at all. -/
def zero : Duration := {}

instance : Inhabited Duration := ⟨zero⟩

/-- The span of `seconds` and `nanoseconds`, the latter carried over past a second. -/
def ofParts (seconds nanoseconds : Nat) : Duration :=
  ⟨seconds + nanoseconds / nanosPerSecond, nanoseconds % nanosPerSecond,
    Nat.mod_lt _ (by decide)⟩

/-- A whole number of seconds. -/
def ofSeconds (seconds : Nat) : Duration := ⟨seconds, 0, by decide⟩

/-- A whole number of milliseconds. -/
def ofMillis (millis : Nat) : Duration :=
  ofParts (millis / 1000) (millis % 1000 * 1000000)

/-- The whole milliseconds of a span. -/
def millis (d : Duration) : Nat := d.seconds * 1000 + d.nanoseconds / 1000000

/-- The whole milliseconds as a 64-bit word; larger numbers wrap around. -/
def millisWord (d : Duration) : Nat := d.millis % Nat.pow 2 64

/-! ## Seconds with two decimals -/

/-- The span as a double of seconds, in units of `2 ^ -Rounding.fractionBits`: the
    double of the whole seconds plus the double of the rest, each operation rounded to
    53 significant bits. -/
def binarySeconds (d : Duration) : Nat :=
  let whole := Rounding.toSignificant (d.seconds * Rounding.one) 1
  let rest := Rounding.toSignificant (d.nanoseconds * Rounding.one) nanosPerSecond
  Rounding.toSignificant (whole + rest) 1

/-- The hundredths of a second that are shown: the exact value of the double, rounded
    to two decimals. -/
def hundredths (d : Duration) : Nat :=
  Rounding.nearest (d.binarySeconds * 100) Rounding.one

/-- A number of hundredths, written with a point and two decimals. -/
def showHundredths (n : Nat) : String :=
  let rest := n % 100
  toString (n / 100) ++ "." ++ (if rest < 10 then "0" else "") ++ toString rest

/-- The span in seconds with two decimals. -/
def showSeconds (d : Duration) : String := showHundredths d.hundredths

end Duration

end Conformance
