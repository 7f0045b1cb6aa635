import Conformance.Duration
import Conformance.Text.Utf8
import Conformance.Verdict

/-! # Invocations

What one run of the subject produced: how it ended, what it wrote, and how long it
took.
-/

namespace Conformance

/-! ## Wait statuses -/

/-- How a process ended, as far as its status tells. -/
inductive Ending where
  | exited (code : Nat)
  | signalled (signal : Nat)
  | neither
deriving Repr, DecidableEq

/-- The 32-bit word in which the operating system reports how a process ended. -/
structure WaitStatus where
  word : UInt32
deriving Repr, DecidableEq

namespace WaitStatus

/-- The status with the given signed value. -/
def ofInt (raw : Int) : WaitStatus := ⟨(Int32.ofInt raw).toUInt32⟩

/-- The status of a process that exited with a code. -/
def ofExit (code : Nat) : WaitStatus := ⟨UInt32.ofNat (code % 256 * 256)⟩

/-- The status of a process that a signal ended. -/
def ofSignal (signal : Nat) : WaitStatus := ⟨UInt32.ofNat (signal % 128)⟩

/-- Reads a status.  The low seven bits are zero after an exit, whose code is the
    second byte; all ones for a stopped process; and otherwise the signal. -/
def ending (status : WaitStatus) : Ending :=
  let low := status.word.toNat % 128
  if low = 0 then .exited (status.word.toNat / 256 % 256)
  else if low = 127 then .neither
  else .signalled low

/-- The exit code, if the process exited. -/
def exitCode (status : WaitStatus) : Option Int :=
  match status.ending with
  | .exited code => some code
  | _ => none

/-- The signal, if one ended the process. -/
def signal (status : WaitStatus) : Option Int :=
  match status.ending with
  | .signalled signal => some signal
  | _ => none

end WaitStatus

/-! ## Results -/

/-- What one run of the subject produced. -/
structure Invocation where
  exitCode : Option Int := none
  signal : Option Int := none
  stdout : List UInt8 := []
  stderr : List UInt8 := []
  timedOut : Bool := false
  duration : Duration := .zero
deriving DecidableEq

namespace Invocation

/-- A subject that exited with a code, wrote nothing and took no time. -/
def exited (code : Int) : Invocation := { exitCode := some code }

/-- The result of a process with the given status. -/
def ofStatus (status : WaitStatus) (stdout stderr : List UInt8) (duration : Duration) :
    Invocation :=
  { exitCode := status.exitCode, signal := status.signal, stdout, stderr, duration }

/-- The standard output as text. -/
def stdoutText (invocation : Invocation) : String := Utf8.decodeLossy invocation.stdout

/-- The standard error as text. -/
def stderrText (invocation : Invocation) : String := Utf8.decodeLossy invocation.stderr

/-- How the subject ended, in words. -/
def label (invocation : Invocation) : String :=
  if invocation.timedOut then "timed out after " ++ invocation.duration.showSeconds ++ "s"
  else
    match invocation.exitCode, invocation.signal with
    | some code, _ => "exit " ++ toString code
    | none, some signal => "signal " ++ toString signal
    | none, none => "terminated"

/-- Judges a subject; one that timed out meets no expectation. -/
def verdict (invocation : Invocation) (expected : Expectation) : Verdict :=
  if invocation.timedOut then .timedOut else .ofExitCode expected invocation.exitCode

end Invocation

end Conformance
