import Conformance.Text.Columns

/-! # Text with escape sequences

An escape sequence tells a terminal what to do and takes no room on a page.  It is an
escape character with the character after it, and after `[` or `]` everything up to the
end of the sequence.
-/

namespace Conformance.Text

/-- The escape character. -/
def escapeChar : Char := '\x1b'

/-- The bell, which also ends commands. -/
def bell : Char := '\x07'

namespace Visible

/-- Where a character stands: in the text or in an escape sequence. -/
inductive Mode where
  | text
  /-- Right behind an escape character. -/
  | escape
  /-- Behind `[`, up to a final character. -/
  | control
  /-- Behind `]`, up to a bell or to an escape character with a backslash. -/
  | command (escaped : Bool)
deriving Repr, DecidableEq

/-- The mode behind a character. -/
def Mode.next (mode : Mode) (c : Char) : Mode :=
  match mode with
  | .text => if c = escapeChar then .escape else .text
  | .escape => if c = '[' then .control else if c = ']' then .command false else .text
  | .control => if '@' ≤ c ∧ c ≤ '~' then .text else .control
  | .command escaped =>
    if c = bell ∨ (escaped ∧ c = '\\') then .text else .command (c = escapeChar)

/-- A scan in progress: the mode, and the characters passed, each with whether it is
    visible, latest first. -/
structure Scan where
  mode : Mode := .text
  passed : List (Char × Bool) := []

/-- Passes one character. -/
def Scan.step (scan : Scan) (c : Char) : Scan :=
  ⟨scan.mode.next c, (c, decide (scan.mode = .text) && c != escapeChar) :: scan.passed⟩

end Visible

/-- The characters of a text, each with whether it is visible. -/
def marked (text : List Char) : List (Char × Bool) :=
  (text.foldl Visible.Scan.step {}).passed.reverse

/-- The characters of a text that are visible. -/
def visible (text : List Char) : List Char :=
  (marked text).filterMap fun (c, shown) => if shown then some c else none

/-- How many columns a text takes. -/
def width (text : List Char) : Nat :=
  (visible text).foldr (fun c total => columns c + total) 0

end Conformance.Text
