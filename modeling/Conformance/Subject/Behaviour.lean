import Conformance.Subject.TimedWait

/-! # Scripted subjects

A subject described by what it does on each fixture: what it writes, whether it hangs,
and how it ends.
-/

namespace Conformance

/-! ## Signals -/

/-- What a signal does to a process that does not handle it. -/
inductive SignalEffect where
  | nothing
  | stops
  | ends
deriving Repr, DecidableEq

namespace SignalEffect

/-- The highest signal there is. -/
def lastSignal : Nat := 64

/-- The signals that are ignored unless they are handled: those about children,
    continuing, urgent data and the size of the window. -/
def ignored : List Nat := [17, 18, 23, 28]

/-- The signals of a terminal that stop a process.  They do nothing to one that no
    terminal controls. -/
def terminalStops : List Nat := [20, 21, 22]

/-- The signal that stops any process. -/
def stopSignal : Nat := 19

/-- What a signal does to a process that no terminal controls.  A number that is no
    signal cannot be sent. -/
def ofSignal (signal : Nat) : SignalEffect :=
  if signal = stopSignal then .stops
  else if signal = 0 ∨ lastSignal < signal then .nothing
  else if ignored.contains signal || terminalStops.contains signal then .nothing
  else .ends

end SignalEffect

/-! ## Behaviours -/

/-- What a subject does, in the order of the fields. -/
structure Behaviour where
  /-- Writes each of its arguments to standard output. -/
  showsArguments : Bool := false
  /-- Reads standard input to its end and writes how long it was. -/
  readsInput : Bool := false
  stdout : List UInt8 := []
  stderr : List UInt8 := []
  /-- Starts a helper that keeps both pipes open for a while, then hangs. -/
  lingers : Bool := false
  hangs : Bool := false
  /-- Sends itself a signal. -/
  signal : Option Nat := none
  exitCode : Nat := 0
deriving Repr, DecidableEq

/-- A subject: its behaviours by the last component of its last argument.  Under `*`
    stands the behaviour on every other argument. -/
structure Subject where
  behaviours : List (String × Behaviour) := []
deriving Repr, DecidableEq

/-- A process at work: what it writes, when, how it ends by itself, and until when a
    helper of it keeps its pipes open. -/
structure Performance where
  stdout : List UInt8
  stderr : List UInt8
  writesAt : Nat
  child : Child
  helperUntil : Nat
deriving Repr, DecidableEq

namespace Behaviour

/-- How many milliseconds a process takes to get to work. -/
def startup : Nat := 1

/-- How long a process hangs, in milliseconds. -/
def hangTime : Nat := 20000

/-- How long a helper keeps pipes open, in milliseconds. -/
def lingerTime : Nat := 1500

/-- What a process writes to standard output.  Its standard input is empty. -/
def output (behaviour : Behaviour) (arguments : List String) : List UInt8 :=
  (if behaviour.showsArguments then
    arguments.flatMap fun argument => Utf8.encode ("[" ++ argument ++ "]\n")
   else []) ++
  (if behaviour.readsInput then Utf8.encode "stdin 0\n" else []) ++
  behaviour.stdout

/-- How a process ends if nobody ends it.  One whose signal does nothing goes on to
    exit. -/
def status (behaviour : Behaviour) : WaitStatus :=
  match behaviour.signal with
  | some signal =>
    match SignalEffect.ofSignal signal with
    | .ends => .ofSignal signal
    | .nothing | .stops => .ofExit behaviour.exitCode
  | none => .ofExit behaviour.exitCode

/-- Whether a process stops for good before it can end. -/
def stops (behaviour : Behaviour) : Bool :=
  behaviour.signal.any fun signal => SignalEffect.ofSignal signal = .stops

/-- A process that behaves this way. -/
def perform (behaviour : Behaviour) (arguments : List String) : Performance :=
  let lingering := if behaviour.lingers then hangTime else 0
  let hanging := if behaviour.hangs then hangTime else 0
  let endsAt := if behaviour.stops then none else some (startup + lingering + hanging)
  { stdout := behaviour.output arguments
    stderr := behaviour.stderr
    writesAt := startup
    child := ⟨behaviour.status, endsAt⟩
    helperUntil := if behaviour.lingers then startup + lingerTime else 0 }

end Behaviour

namespace Subject

/-- What follows the last separator of an argument. -/
def lastPart (argument : String) : String :=
  String.ofList (argument.toList.reverse.takeWhile (· ≠ '/')).reverse

/-- What the subject does with its arguments. -/
def behaviour (subject : Subject) (arguments : List String) : Behaviour :=
  let key := lastPart (arguments.getLastD "")
  ((subject.behaviours.lookup key).or (subject.behaviours.lookup "*")).getD {}

/-- The subject at work. -/
def perform (subject : Subject) (arguments : List String) : Performance :=
  (subject.behaviour arguments).perform arguments

end Subject

end Conformance
