import Conformance.Text.Visible

/-! # What a terminal would show

Text from the command line can hold control characters and control sequences.  Messages
show it without them: of the control characters only those that move to another place
on the page stay.
-/

namespace Conformance.Text.Terminal

/-- What a terminal makes of the next character. -/
inductive Mode where
  | ground
  /-- Behind an escape character. -/
  | escape
  /-- Behind an escape character and blanks or punctuation. -/
  | intermediate
  /-- In a control sequence. -/
  | control
  /-- In an operating system command. -/
  | command
  /-- At the head of a device control string. -/
  | deviceHead
  /-- In a string that is not for the terminal itself. -/
  | foreign
deriving Repr, DecidableEq

/-- Whether a control character stays: tab, line feed, form feed and carriage return. -/
def isLayout (c : Char) : Bool := c = '\t' || c = '\n' || c = '\x0c' || c = '\r'

/-- Whether a character is in a range of code points. -/
def isWithin (first last : Nat) (c : Char) : Bool := first ≤ c.toNat && c.toNat ≤ last

/-- Whether one of the bytes of a character is the string terminator. -/
def hasTerminator (c : Char) : Bool := (String.utf8EncodeChar c).contains 0x9C

/-- The mode behind an escape character and another one. -/
def Mode.ofIntroducer (c : Char) : Mode :=
  if c = '[' then .control
  else if c = ']' then .command
  else if c = 'P' then .deviceHead
  else if c = 'X' ∨ c = '^' ∨ c = '_' then .foreign
  else if isWithin 0x20 0x2F c then .intermediate
  else if isWithin 0x30 0x7E c then .ground
  else .escape

/-- The mode behind a character, in a mode other than the ground. -/
def Mode.next (mode : Mode) (c : Char) : Mode :=
  match mode with
  | .ground => .ground
  | .escape => .ofIntroducer c
  | .intermediate => if isWithin 0x30 0x7E c then .ground else .intermediate
  | .control => if isWithin 0x40 0x7E c then .ground else .control
  | .command => if c = bell then .ground else .command
  | .deviceHead => if isWithin 0x40 0x7E c then .foreign else .deviceHead
  | .foreign => if hasTerminator c then .ground else .foreign

/-- Whether a layout character ends a sequence of this mode and is shown. -/
def Mode.yields : Mode → Bool
  | .ground | .escape | .intermediate | .control => true
  | .command | .deviceHead | .foreign => false

/-- A display in progress: the mode, and the characters shown so far, latest first. -/
structure Display where
  mode : Mode := .ground
  shown : List Char := []

/-- Shows one character or leaves it out.  Escape, cancel and substitute end whatever is
    going on. -/
def Display.step (display : Display) (c : Char) : Display :=
  if c = escapeChar then ⟨.escape, display.shown⟩
  else if c = '\x18' ∨ c = '\x1a' then ⟨.ground, display.shown⟩
  else if isLayout c && display.mode.yields then ⟨.ground, c :: display.shown⟩
  else if c.toNat < 0x20 ∧ c ≠ bell ∨ c = '\x7f' then display
  else if display.mode = .ground then
    if c = bell then display else ⟨.ground, c :: display.shown⟩
  else ⟨display.mode.next c, display.shown⟩

/-- What a terminal would show of a text. -/
def plain (text : String) : String :=
  String.ofList (text.toList.foldl Display.step {}).shown.reverse

end Conformance.Text.Terminal
