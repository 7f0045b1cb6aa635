import Conformance.Obstacle

/-! # Sinks

Where a report goes.  A sink takes bytes up to a limit and may refuse one of the calls
that ask it to hand them on; both faults are part of its value, so a report over a
broken sink is as predictable as one over a sound sink.
-/

namespace Conformance

/-- A destination for bytes. -/
structure Sink where
  /-- How many bytes it takes in all; without a limit, any number. -/
  limit : Option Nat := none
  /-- Which call of `flush` fails, counted from one. -/
  badFlush : Option Nat := none
  /-- What a write past the limit fails with. -/
  refusal : IoFault := .because "sink closed"
  /-- The bytes taken so far. -/
  taken : List UInt8 := []
  /-- The number of calls of `flush` so far. -/
  flushes : Nat := 0
deriving DecidableEq

namespace Sink

/-- How many of `count` bytes the sink still takes. -/
def room (sink : Sink) (count : Nat) : Nat :=
  match sink.limit with
  | some limit => min count (limit - sink.taken.length)
  | none => count

/-- Writes bytes.  Those that fit are kept; if some do not, the write fails. -/
def write (sink : Sink) (bytes : List UInt8) : Sink × Option IoFault :=
  let fitting := sink.room bytes.length
  ({ sink with taken := sink.taken ++ bytes.take fitting },
    if fitting < bytes.length then some sink.refusal else none)

/-- Asks the sink to hand on what it took. -/
def flush (sink : Sink) : Sink × Option IoFault :=
  let call := sink.flushes + 1
  ({ sink with flushes := call },
    if sink.badFlush = some call then some (.because "flush failed") else none)

/-- Writes bytes and then, if asked to and if the write went well, flushes. -/
def put (sink : Sink) (bytes : List UInt8) (thenFlush : Bool) : Sink × Option IoFault :=
  match sink.write bytes with
  | (sink, some fault) => (sink, some fault)
  | (sink, none) => if thenFlush then sink.flush else (sink, none)

end Sink

end Conformance
