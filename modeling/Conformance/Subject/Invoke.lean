import Conformance.Run
import Conformance.Settings
import Conformance.Subject.Behaviour
import Conformance.Subject.Drain

/-! # Invoking the subject

The subject is called with its own arguments, the mode and the fixture.  Without a
timeout everything it writes is captured; with one, output is collected for a short
while after it ended and what comes later is dropped.
-/

namespace Conformance.Invoke

/-! ## Starting -/

/-- Whether a program and its arguments can be handed to the operating system. -/
def isPassable (program : Path) (arguments : List String) : Bool :=
  !program.hasNul && arguments.all fun argument => !argument.toList.contains '\x00'

/-- The longest argument a program can be given, in bytes. -/
def longestArgument : Nat := 131071

/-- How many bytes the arguments of a program may take in all, with what is needed to
    find each. -/
def longestArguments : Nat := 2097152

/-- How many bytes are needed to end an argument and to find it. -/
def argumentOverhead : Nat := 9

/-- Whether the arguments of a program are too long to be handed over. -/
def areTooLong (arguments : List String) : Bool :=
  let lengths := arguments.map fun argument => (Utf8.encode argument).length
  lengths.any (longestArgument < ·) ||
    longestArguments < lengths.foldr (fun length total => length + argumentOverhead + total) 0

/-- The obstacle a failed start amounts to. -/
def startObstacle (program : Path) (fault : IoFault) : Obstacle :=
  if fault = IoFault.notFound then .noSubject program else .cannotStart program fault

/-- Starts a program.  That it can be handed over with its arguments is checked before it
    is looked up. -/
def start (check : Path → Except IoFault Unit) (program : Path) (arguments : List String) :
    Except Obstacle Unit :=
  if !isPassable program arguments then .error (.cannotStart program .nulInArgument)
  else if areTooLong arguments then .error (.cannotStart program .argumentsTooLong)
  else
    match check program with
    | .ok () => .ok ()
    | .error fault => .error (startObstacle program fault)

/-! ## Observing -/

/-- The result with what is logged about it. -/
def finished (invocation : Invocation) (logs : List LogEvent) : Logged Invocation :=
  ⟨logs ++ [.subjectFinished invocation.exitCode invocation.timedOut], invocation⟩

/-- When the last process lets go of the pipes of a subject that ended at a moment. -/
def closedAt (performance : Performance) (ended : Nat) : Nat :=
  max ended performance.helperUntil

/-- Everything that a pipe of a subject gives up to its end. -/
def captured (bytes : List UInt8) : List UInt8 :=
  (PipeRead.capture (PipeRead.ofChunks (PipeRead.cut bytes))).getD []

/-- Waits for a subject to the end. -/
def observe (performance : Performance) : Logged Invocation :=
  let ended := performance.child.endsAt.getD 0
  let duration := Duration.ofMillis (closedAt performance ended)
  finished
    (.ofStatus performance.child.status (captured performance.stdout)
      (captured performance.stderr) duration) []

/-- How long output is still collected once the subject was reaped, in milliseconds. -/
def gracePeriod : Nat := 100

/-- When collecting the output of a subject that was reaped at a moment comes to its end. -/
def drainDeadline (timeout : Duration) (moment : Nat) : Nat :=
  max timeout.millis moment + gracePeriod

/-- What a subject that ended at a moment gives to the readers of its pipes.  What it did not
    come to write is not there. -/
def feed (performance : Performance) (ended : Nat) : Drain.Feed :=
  let written (bytes : List UInt8) : List (List UInt8) :=
    if performance.writesAt ≤ ended then PipeRead.cut bytes else []
  { stdout := written performance.stdout
    stderr := written performance.stderr
    writtenAt := performance.writesAt
    closedAt := closedAt performance ended }

/-- The turns in which the output of a subject that was reaped at a moment is collected. -/
def drainTurns (performance : Performance) (timeout : Duration) (moment : Nat) :
    List Drain.Turn :=
  Drain.promptTurns (drainDeadline timeout moment) moment (feed performance moment)

/-- What a collector logs that is done with a channel. -/
def drainLogs (channel : Channel) : List LogEvent :=
  if channel.finish = some .gaveUp then [.pipeStillOpen] else []

/-- Collects the output of a subject that was reaped: first what it wrote to standard
    output, then to standard error, up to one deadline. -/
def collect (performance : Performance) (fixture : Fixture) (timeout : Duration)
    (reaped : TimedWait.Reaped) : Logged Invocation :=
  let drain :=
    (Drain.run (drainDeadline timeout reaped.moment)
      (drainTurns performance timeout reaped.moment)).getD {}
  let invocation : Invocation :=
    { Invocation.ofStatus reaped.status drain.stdout.bytes drain.stderr.bytes
        (.ofMillis reaped.moment) with
      timedOut := reaped.timedOut }
  finished invocation
    ((if reaped.killTried then [.timeoutExceeded fixture timeout] else []) ++
     drainLogs drain.stdout ++ drainLogs drain.stderr)

/-- Waits for a subject no longer than a timeout. -/
def observeWithin (timeout : Duration) (performance : Performance) (fixture : Fixture) :
    Logged Invocation :=
  let turns := TimedWait.promptTurns performance.child timeout.millis
  match TimedWait.wait timeout.millis turns with
  | some reaped => collect performance fixture timeout reaped
  | none => observe performance

/-! ## Invoking -/

/-- Invokes a scripted subject on a fixture. -/
def invoke (check : Path → Except IoFault Unit) (subject : Subject) (settings : Settings)
    (fixture : Fixture) : Observation :=
  let arguments := settings.arguments fixture
  match start check settings.subject arguments with
  | .error obstacle => { value := .error obstacle }
  | .ok () =>
    let performance := subject.perform arguments
    let seen :=
      match settings.timeout with
      | none => observe performance
      | some timeout => observeWithin timeout performance fixture
    ⟨seen.logs, .ok seen.value⟩

end Conformance.Invoke
