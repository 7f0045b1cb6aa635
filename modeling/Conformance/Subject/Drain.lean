import Conformance.Subject.Channel

/-! # Collecting output

Once a subject was reaped, what it wrote is collected from two channels, standard output first
and then standard error, up to one deadline.  Each time the collector asks how much time is
left and waits no longer than that; but a chunk that is there is received at once, even if no
time is left.

The clock, the two readers and the collector take turns.  The readers go on as long as any
process writes.  `step` says when each turn can be taken and what it does; a list of turns is
one interleaving.
-/

namespace Conformance

/-- The pipes of a subject. -/
inductive Stream where
  | stdout
  | stderr
deriving Repr, DecidableEq

namespace Drain

/-- What the collector does next. -/
inductive Phase where
  /-- Ask how much time is left. -/
  | asking (stream : Stream)
  /-- Receive, or give up once a moment is reached. -/
  | receiving (stream : Stream) (limit : Nat)
  | done
deriving Repr, DecidableEq

/-- What the collector does after it let go of a channel. -/
def Phase.next : Stream → Phase
  | .stdout => .asking .stderr
  | .stderr => .done

/-- Something that happens next: time passes, a reader reads, or the collector does what its
    phase says. -/
inductive Turn where
  | passes (span : Nat)
  | reads (stream : Stream) (read : PipeRead)
  | asks
  | receives
  /-- The collector finds a channel closed and lets go of it. -/
  | closes
  /-- The collector has waited long enough and lets go of a channel. -/
  | givesUp
deriving Repr, DecidableEq

end Drain

/-- The channels of a subject and their collector at a moment. -/
structure Drain where
  clock : Nat := 0
  stdout : Channel := {}
  stderr : Channel := {}
  phase : Drain.Phase := .asking .stdout
deriving Repr, DecidableEq

namespace Drain

/-- The channel of a pipe. -/
def channel (drain : Drain) : Stream → Channel
  | .stdout => drain.stdout
  | .stderr => drain.stderr

/-- Puts a channel in the place of another. -/
def withChannel (drain : Drain) (stream : Stream) (channel : Channel) : Drain :=
  match stream with
  | .stdout => { drain with stdout := channel }
  | .stderr => { drain with stderr := channel }

/-- Lets go of a channel and turns to the next. -/
def letGo (drain : Drain) (stream : Stream) (finish : Finish) : Drain :=
  { drain.withChannel stream { drain.channel stream with finish := some finish } with
    phase := .next stream }

/-! ## Turns -/

/-- What a turn makes of a drain, if it can be taken. -/
def step (deadline : Nat) (drain : Drain) : Turn → Option Drain
  | .passes span => some { drain with clock := drain.clock + span }
  | .reads stream read =>
    ((drain.channel stream).forward drain.clock read).map (drain.withChannel stream)
  | .asks =>
    match drain.phase with
    | .asking stream =>
      let remaining := deadline - drain.clock
      some { drain with phase := .receiving stream (drain.clock + remaining) }
    | _ => none
  | .receives =>
    match drain.phase with
    | .receiving stream _ =>
      (drain.channel stream).receive.map fun channel =>
        { drain.withChannel stream channel with phase := .asking stream }
    | _ => none
  | .closes =>
    match drain.phase with
    | .receiving stream _ =>
      if (drain.channel stream).isClosed then some (drain.letGo stream .closed) else none
    | _ => none
  | .givesUp =>
    match drain.phase with
    | .receiving stream limit =>
      if (drain.channel stream).isIdle && limit ≤ drain.clock then
        some (drain.letGo stream .gaveUp)
      else none
    | _ => none

/-- What turns make of two fresh channels, if they can be taken in this order. -/
def run (deadline : Nat) (turns : List Turn) : Option Drain := turns.foldlM (step deadline) {}

/-! ## A prompt collector -/

/-- What a subject wrote, chunk by chunk, with when it did so and when its pipes were closed. -/
structure Feed where
  stdout : List (List UInt8)
  stderr : List (List UInt8)
  writtenAt : Nat
  closedAt : Nat

/-- The turns in which chunks are read from a pipe. -/
def readingTurns (stream : Stream) (chunks : List (List UInt8)) : List Turn :=
  chunks.map fun chunk => .reads stream (.bytes chunk)

/-- The turns in which chunks that are there are received. -/
def receivingTurns (chunks : List (List UInt8)) : List Turn :=
  chunks.flatMap fun _ => [.asks, .receives]

/-- The turns of readers and a collector that lose no time.  The collector begins at a moment,
    when everything was read; it lets go of both channels when they are closed, or at the
    deadline if that comes first. -/
def promptTurns (deadline moment : Nat) (feed : Feed) : List Turn :=
  let written := min feed.writtenAt moment
  .passes written :: (readingTurns .stdout feed.stdout ++ readingTurns .stderr feed.stderr) ++
    .passes (moment - written) :: receivingTurns feed.stdout ++
    if feed.closedAt ≤ deadline then
      [.asks, .passes (feed.closedAt - moment), .reads .stdout .ended, .reads .stderr .ended,
        .closes] ++ receivingTurns feed.stderr ++ [.asks, .closes]
    else
      [.asks, .passes (deadline - moment), .givesUp] ++ receivingTurns feed.stderr ++
        [.asks, .givesUp]

end Drain

end Conformance
