import Conformance.CommandLine.Value
import Conformance.Scratch

/-! # Scratch scripts

A scratch world in writing, one statement to a line:

* `dir PATH`, `file PATH` and `link PATH TARGET` put an entry into the working directory,
* `exit NAME CODE` and `signal NAME NUMBER` say how the subject ends on the fixture with
  that name, `*` standing for every fixture without statements of its own,
* `stdout NAME TEXT` and `stderr NAME TEXT` say what it writes there, a line at a time,
* `hang NAME`, `linger NAME`, `args NAME` and `stdin NAME` make it hang, start a helper,
  show its arguments and read its input.

Later statements on a fixture add to earlier ones.  Empty lines, and lines that begin
with a number sign, say nothing.
-/

namespace Conformance

namespace Scratch

/-- One statement about a scratch world. -/
inductive Statement where
  | entry (path : Path) (node : Node)
  | exit (name : String) (code : Nat)
  | signal (name : String) (number : Nat)
  | stdout (name : String) (line : String)
  | stderr (name : String) (line : String)
  | hang (name : String)
  | linger (name : String)
  | args (name : String)
  | stdin (name : String)
deriving DecidableEq

namespace Statement

/-- The text up to the first blank, and the text behind it. -/
def cutWord (text : List Char) : String × List Char :=
  (String.ofList (text.takeWhile (· ≠ ' ')), (text.dropWhile (· ≠ ' ')).drop 1)

/-- A number in decimal, within a bound. -/
def number? (most : Nat) (text : List Char) : Option Nat :=
  match text, text.foldlM CommandLine.appendDigit 0 with
  | _ :: _, .ok number => if number ≤ most then some number else none
  | _, _ => none

/-- Reads a line that says something. -/
def ofLine? (line : List Char) : Option Statement :=
  let (verb, rest) := cutWord line
  let (name, tail) := cutWord rest
  let text := String.ofList tail
  match verb with
  | "dir" => some (.entry (.ofString (String.ofList rest)) .dir)
  | "file" => some (.entry (.ofString (String.ofList rest)) (.file false))
  | "link" => some (.entry (.ofString name) (.link (.ofString text)))
  | "exit" => (number? 255 tail).map (.exit name)
  | "signal" => (number? 126 tail).map (.signal name)
  | "stdout" => some (.stdout name text)
  | "stderr" => some (.stderr name text)
  | "hang" => some (.hang name)
  | "linger" => some (.linger name)
  | "args" => some (.args name)
  | "stdin" => some (.stdin name)
  | _ => none

/-- The bytes of a line that is written. -/
def lineBytes (line : String) : List UInt8 := Utf8.encode (line ++ "\n")

end Statement

/-- Changes the behaviour under a name, which is the default one if there is none yet. -/
def adjustRow (name : String) (change : Behaviour → Behaviour) :
    List (String × Behaviour) → List (String × Behaviour)
  | [] => [(name, change {})]
  | (other, behaviour) :: rest =>
    if other = name then (other, change behaviour) :: rest
    else (other, behaviour) :: adjustRow name change rest

/-- The world in which the subject behaves differently on one fixture. -/
def adjust (scratch : Scratch) (name : String) (change : Behaviour → Behaviour) : Scratch :=
  { scratch with subject := ⟨adjustRow name change scratch.subject.behaviours⟩ }

/-- The world after a statement. -/
def extend (scratch : Scratch) : Statement → Scratch
  | .entry path node => { scratch with entries := scratch.entries ++ [(path, node)] }
  | .exit name code => scratch.adjust name ({ · with exitCode := code })
  | .signal name number => scratch.adjust name ({ · with signal := some number })
  | .stdout name line =>
    scratch.adjust name fun b => { b with stdout := b.stdout ++ Statement.lineBytes line }
  | .stderr name line =>
    scratch.adjust name fun b => { b with stderr := b.stderr ++ Statement.lineBytes line }
  | .hang name => scratch.adjust name ({ · with hangs := true })
  | .linger name => scratch.adjust name ({ · with lingers := true })
  | .args name => scratch.adjust name ({ · with showsArguments := true })
  | .stdin name => scratch.adjust name ({ · with readsInput := true })

/-- Whether a line says nothing. -/
def isRemark (line : List Char) : Bool := line.isEmpty || line.head? == some '#'

/-- Reads the lines of a script onto a world, or gives the first line that is no
    statement. -/
def readLines (scratch : Scratch) : List (List Char) → Except String Scratch
  | [] => .ok scratch
  | line :: lines =>
    if isRemark line then readLines scratch lines
    else
      match Statement.ofLine? line with
      | some statement => readLines (scratch.extend statement) lines
      | none => .error (String.ofList line)

/-- Reads a script. -/
def ofScript (script : String) : Except String Scratch :=
  readLines {} (Text.lines script.toList)

end Scratch

end Conformance
