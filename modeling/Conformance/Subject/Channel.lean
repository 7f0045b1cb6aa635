/-! # Channels

A reader takes what a pipe gives and forwards it chunk by chunk on a channel, on which no
chunk is lost and none overtakes another.  What is received from the channel is received in
the order in which it was forwarded.
-/

namespace Conformance

/-! ## Pipes -/

/-- What one read of a pipe gives. -/
inductive PipeRead where
  | bytes (bytes : List UInt8)
  /-- The read was interrupted and has to be repeated. -/
  | interrupted
  | failed
  /-- Every writer has closed the pipe. -/
  | ended
deriving Repr, DecidableEq

namespace PipeRead

/-- How many bytes a reader takes at once. -/
def chunkSize : Nat := 8192

/-- Whether a read can give this: some bytes, but no more than are asked for. -/
def isPossible : PipeRead → Bool
  | .bytes chunk => !chunk.isEmpty && chunk.length ≤ chunkSize
  | .interrupted | .failed | .ended => true

/-- The chunks in which bytes that are all there are read. -/
def cut (bytes : List UInt8) : List (List UInt8) :=
  (List.range ((bytes.length + (chunkSize - 1)) / chunkSize)).map fun index =>
    (bytes.drop (index * chunkSize)).take chunkSize

/-- The reads of a pipe into which these chunks were written before it was closed. -/
def ofChunks (chunks : List (List UInt8)) : List PipeRead := chunks.map .bytes ++ [.ended]

/-- Everything that a pipe gives up to its end, for a reader that waits for that. -/
def capture : List PipeRead → Option (List UInt8)
  | [] => none
  | .bytes chunk :: reads => (capture reads).map (chunk ++ ·)
  | .interrupted :: reads => capture reads
  | .failed :: _ => none
  | .ended :: _ => some []

end PipeRead

/-! ## Channels -/

/-- Some bytes of a pipe and the moment at which they were forwarded. -/
structure Chunk where
  bytes : List UInt8
  moment : Nat
deriving Repr, DecidableEq

/-- How receiving from a channel came to its end. -/
inductive Finish where
  /-- The reader was done, and nothing was left to receive. -/
  | closed
  /-- Nothing came in time. -/
  | gaveUp
deriving Repr, DecidableEq

/-- A channel from a reader to whoever receives. -/
structure Channel where
  /-- What was forwarded and not received yet. -/
  queue : List Chunk := []
  /-- What was received. -/
  received : List Chunk := []
  /-- Whether the reader is still at work. -/
  isOpen : Bool := true
  /-- How receiving ended, if it did. -/
  finish : Option Finish := none
deriving Repr, DecidableEq

namespace Channel

/-- What a read at a moment makes of a channel.  The reader is done at the end of the pipe, at
    a failure, and when it has bytes to forward that nobody receives any more. -/
def forward (channel : Channel) (moment : Nat) (read : PipeRead) : Option Channel :=
  if channel.isOpen && read.isPossible then
    match read with
    | .bytes bytes =>
      if channel.finish.isNone then
        some { channel with queue := channel.queue ++ [⟨bytes, moment⟩] }
      else some { channel with isOpen := false }
    | .interrupted => some channel
    | .failed | .ended => some { channel with isOpen := false }
  else none

/-- Receives what was forwarded first, if anything is there. -/
def receive (channel : Channel) : Option Channel :=
  match channel.queue with
  | chunk :: queue => some { channel with queue, received := channel.received ++ [chunk] }
  | [] => none

/-- Whether receiving finds that nothing will come any more. -/
def isClosed (channel : Channel) : Bool := channel.queue.isEmpty && !channel.isOpen

/-- Whether there is nothing to receive yet. -/
def isIdle (channel : Channel) : Bool := channel.queue.isEmpty && channel.isOpen

/-- The bytes that were received. -/
def bytes (channel : Channel) : List UInt8 := channel.received.flatMap Chunk.bytes

end Channel

end Conformance
