import Conformance.Scratch.Script

/-! # The command

Carries out a command line in the scratch world that standard input describes.  Nothing
is decided here: the words go to the program, and what it leaves behind is handed on.
-/

namespace Conformance

/-- Reads standard input to its end. -/
def readScript : IO String := do
  let input ← IO.getStdin
  let mut script := ByteArray.empty
  repeat
    let piece ← input.read 65536
    if piece.isEmpty then break
    script := script ++ piece
  return Utf8.decodeLossy script.toList

/-- Hands on what the program leaves behind. -/
def deliver (response : Program.Response) : IO UInt32 := do
  let output ← IO.getStdout
  output.write ⟨response.stdout.toArray⟩
  output.flush
  IO.eprint response.stderr
  return UInt32.ofNat response.exitCode

/-- Carries out a command line in the world of a script. -/
def carryOut (script : String) (words : List String) : IO UInt32 := do
  match Scratch.ofScript script with
  | .error line =>
    IO.eprintln ("not a statement: " ++ line)
    return 2
  | .ok scratch =>
    let terminal ← (← IO.getStdout).isTty
    let world := { scratch.world with terminal }
    deliver (Program.respond world {} (words.map Utf8.encode))

end Conformance

/-- The command: its words are the command line, standard input is the script. -/
def main (words : List String) : IO UInt32 := do
  Conformance.carryOut (← Conformance.readScript) words
