/-! # Lines and substrings

The two textual rules the reports rest on: how captured text is cut into lines, and
when a name contains a word.
-/

namespace Conformance.Text

/-! ## Lines -/

/-- A cut in progress: the finished lines and the characters of the open one, both
    latest first. -/
structure Cut where
  finished : List (List Char) := []
  opened : List Char := []
deriving Repr, DecidableEq

/-- A line feed closes a line; one carriage return directly before it belongs to the
    ending. -/
def Cut.close (cut : Cut) : Cut :=
  match cut.opened with
  | '\r' :: line => ⟨line.reverse :: cut.finished, []⟩
  | line => ⟨line.reverse :: cut.finished, []⟩

/-- Reads one character. -/
def Cut.step (cut : Cut) (c : Char) : Cut :=
  if c = '\n' then cut.close else ⟨cut.finished, c :: cut.opened⟩

/-- The lines after the last character.  What follows the last line feed is a line of
    its own unless it is empty, and keeps a carriage return at its end. -/
def Cut.finish (cut : Cut) : List (List Char) :=
  match cut.opened with
  | [] => cut.finished.reverse
  | line => (line.reverse :: cut.finished).reverse

/-- The lines of a text, without their endings. -/
def lines (text : List Char) : List (List Char) :=
  (text.foldl Cut.step {}).finish

/-! ## Substrings -/

/-- Whether `word` stands somewhere in `text`.  The empty word stands everywhere. -/
def containsChars (word : List Char) : List Char → Bool
  | [] => word.isEmpty
  | c :: rest => word.isPrefixOf (c :: rest) || containsChars word rest

/-- Whether `word` stands somewhere in `text`. -/
def contains (word text : String) : Bool :=
  containsChars word.toList text.toList

end Conformance.Text
