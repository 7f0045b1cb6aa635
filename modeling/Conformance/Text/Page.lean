import Conformance.Text.Alphanumeric
import Conformance.Text.LineBreak
import Conformance.Text.Visible

/-! # Paragraphs on a page

Diagnostics are laid out on a page of fixed width: a text is filled word by word into
lines, the first behind one lead and the others behind another.

A word ends where a line may end.  It may be split after a hyphen between letters or
digits, and a word that is wider than a line is cut wherever the line is full.
-/

namespace Conformance.Page

/-- How many columns a line of a diagnostic may take, its lead included. -/
def pageColumns : Nat := 78

/-- A part of a line that is not broken: its text, the columns it takes, and the blanks
    behind it, which are dropped at the end of a line. -/
structure Word where
  text : List Char
  width : Nat
  blanks : Nat := 0
deriving Repr, DecidableEq

/-! ## Words -/

/-- The soft hyphen. -/
def softHyphen : Char := Char.ofNat 0xAD

/-- Whether a character is a hyphen.  Words do not end at hyphens: they are split there. -/
def isHyphen (c : Char) : Bool := c = '-' || c = softHyphen

/-- The flags without the last one that is set. -/
def clearLast (flags : List Bool) : List Bool :=
  let reversed := flags.reverse
  (reversed.takeWhile (!·) ++ (reversed.dropWhile (!·)).modifyHead fun _ => false).reverse

/-- For each character of a line, whether a word ends behind it.  The word before the
    last is not told from a last word that ends in a hyphen. -/
def wordEnds (line : List Char) : List Bool :=
  let flags := (line.zip ((Text.LineBreak.allowedBefore line).drop 1)).map fun (c, allowed) =>
    allowed && !isHyphen c
  if line.getLast?.any isHyphen then clearLast flags else flags

/-- Words in progress: the ends to come, the words found and the open word, both latest
    first. -/
structure Cutting where
  ends : List Bool
  found : List (List Char) := []
  opened : List Char := []

/-- Passes one character; only visible ones can end a word. -/
def Cutting.step (cutting : Cutting) (entry : Char × Bool) : Cutting :=
  let opened := entry.1 :: cutting.opened
  match entry.2, cutting.ends with
  | false, ends => { cutting with ends, opened }
  | true, true :: ends => ⟨ends, opened.reverse :: cutting.found, []⟩
  | true, ends => { cutting with ends := ends.drop 1, opened }

/-- Cuts a line into words, with the blanks behind them. -/
def cutWords (line : List Char) : List (List Char) :=
  let cutting := (Text.marked line).foldl Cutting.step { ends := wordEnds (Text.visible line) }
  (if cutting.opened.isEmpty then cutting.found
   else cutting.opened.reverse :: cutting.found).reverse

/-- The text of a word without the blanks behind it, and their number. -/
def trimBlanks (word : List Char) : List Char × Nat :=
  let reversed := word.reverse
  ((reversed.dropWhile (· = ' ')).reverse, (reversed.takeWhile (· = ' ')).length)

/-- Splits a word behind every hyphen that stands between letters or digits. -/
def splitHyphens (before : Option Char) (opened : List Char) : List Char → List (List Char)
  | [] => [opened.reverse]
  | c :: rest =>
    if c = '-' && before.any Text.isAlphanumeric && rest.head?.any Text.isAlphanumeric then
      (c :: opened).reverse :: splitHyphens (some c) [] rest
    else splitHyphens (some c) (c :: opened) rest

/-- A word being cut to a width: the pieces cut off and the open one, both latest first,
    and the columns of the open one. -/
structure Chopping where
  pieces : List Word := []
  opened : List Char := []
  width : Nat := 0

/-- Passes one character.  A piece ends before a visible character that does not fit. -/
def Chopping.step (room : Nat) (chopping : Chopping) (entry : Char × Bool) : Chopping :=
  let columns := if entry.2 then Text.columns entry.1 else 0
  if entry.2 && 0 < chopping.width && room < chopping.width + columns then
    ⟨⟨chopping.opened.reverse, chopping.width, 0⟩ :: chopping.pieces, [entry.1], columns⟩
  else
    { chopping with
      opened := entry.1 :: chopping.opened
      width := chopping.width + columns }

/-- Cuts a word that is wider than a line into pieces that are not. -/
def chop (room : Nat) (word : Word) : List Word :=
  if word.width ≤ room then [word]
  else
    let chopping := (Text.marked word.text).foldl (Chopping.step room) {}
    (⟨chopping.opened.reverse, chopping.width, word.blanks⟩ :: chopping.pieces).reverse

/-- The parts of a word that can stand on different lines. -/
def wordParts (room : Nat) (word : List Char) : List Word :=
  let (text, blanks) := trimBlanks word
  let parts := splitHyphens none [] text
  let last := parts.length - 1
  parts.zipIdx.flatMap fun (part, index) =>
    chop room ⟨part, Text.width part, if index = last then blanks else 0⟩

/-! ## Filling -/

/-- A paragraph in progress: its finished lines and the words of its open one, both
    latest first, and the columns of the open one. -/
structure Filling where
  finished : List (List Word) := []
  opened : List Word := []
  width : Nat := 0

/-- Puts a word into the open line if it fits there, else at the start of a new one. -/
def Filling.add (room : Nat) (filling : Filling) (word : Word) : Filling :=
  if room < filling.width + word.width && !filling.opened.isEmpty then
    ⟨filling.opened.reverse :: filling.finished, [word], word.width + word.blanks⟩
  else
    { filling with
      opened := word :: filling.opened
      width := filling.width + word.width + word.blanks }

/-- The text of a line of words.  Blanks at its end are dropped. -/
def lineText : List Word → List Char
  | [] => []
  | [word] => word.text
  | word :: words => word.text ++ List.replicate word.blanks ' ' ++ lineText words

/-- Fills the words of one line of text into lines of `room` columns.  An empty word at
    the start lets the first line be empty where the first word does not fit. -/
def fillLine (room : Nat) (line : List Char) : List (List Char) :=
  let words := ⟨[], 0, 0⟩ :: (cutWords line).flatMap (wordParts room)
  let filled := words.foldl (Filling.add room) {}
  (filled.opened.reverse :: filled.finished).reverse.map lineText

/-- Lays out a text: its first line stands behind `first`, every other behind `rest`,
    and each ends in a line feed. -/
def layOut (first rest text : String) : String :=
  let room := pageColumns - Text.width first.toList
  match (text.toList.splitOn '\n').flatMap (fillLine room) with
  | [] => first ++ "\n"
  | line :: lines =>
    first ++ String.ofList line ++ "\n" ++
      String.join (lines.map fun line => rest ++ String.ofList line ++ "\n")

end Conformance.Page
