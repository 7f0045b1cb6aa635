import Conformance.Subject.Channel

/-! # Reads and channels

What a read gives, what forwarding it and receiving it do to a channel, and that bytes which
are cut into chunks are all there.
-/

namespace Conformance

/-! ## Reads -/

namespace PipeRead

/-- The bytes that a read gave. -/
def given : PipeRead → List UInt8
  | .bytes chunk => chunk
  | .interrupted | .failed | .ended => []

/-- The chunk that a read at a moment is forwarded as, if it gave any bytes. -/
def chunk? (moment : Nat) : PipeRead → Option Chunk
  | .bytes chunk => some ⟨chunk, moment⟩
  | .interrupted | .failed | .ended => none

/-- Whether nothing is read any more after this. -/
def isLast : PipeRead → Bool
  | .failed | .ended => true
  | .bytes _ | .interrupted => false

theorem flatMap_chunk? (moment : Nat) (read : PipeRead) :
    (read.chunk? moment).toList.flatMap Chunk.bytes = read.given := by
  cases read <;> simp [chunk?, given]

theorem capture_concat_ended {reads : List PipeRead}
    (going : ∀ read ∈ reads, read.isLast = false) :
    capture (reads ++ [.ended]) = some (reads.flatMap given) := by
  induction reads with
  | nil => rfl
  | cons read reads ih =>
    have rest := ih fun other member => going other (List.mem_cons_of_mem _ member)
    cases read with
    | bytes chunk => simp [capture, rest, given]
    | interrupted => simpa [capture, given] using rest
    | failed | ended => simp [isLast] at going

theorem flatten_blocks (bytes : List UInt8) (size count : Nat) :
    ((List.range count).map fun index => (bytes.drop (index * size)).take size).flatten =
      bytes.take (count * size) := by
  induction count with
  | zero => simp
  | succ count ih =>
    rw [List.range_succ, List.map_append, List.flatten_append, ih, Nat.succ_mul, List.take_add]
    simp

theorem flatten_cut (bytes : List UInt8) : (cut bytes).flatten = bytes := by
  rw [cut, flatten_blocks, List.take_of_length_le]
  simp only [chunkSize]
  omega

theorem isPossible_of_mem_cut {bytes chunk : List UInt8} (member : chunk ∈ cut bytes) :
    (PipeRead.bytes chunk).isPossible = true := by
  obtain ⟨index, inside, rfl⟩ := List.mem_map.mp member
  have below := List.mem_range.mp inside
  have length : ((bytes.drop (index * chunkSize)).take chunkSize).length =
      min chunkSize (bytes.length - index * chunkSize) := by simp
  simp only [isPossible, Bool.and_eq_true, Bool.not_eq_true', List.isEmpty_eq_false_iff,
    decide_eq_true_iff, ← List.length_pos_iff, length]
  simp only [chunkSize] at below ⊢
  omega

end PipeRead

namespace Channel

/-- What forwarding a read does to a channel. -/
structure Forwards (channel : Channel) (moment : Nat) (read : PipeRead) (next : Channel) :
    Prop where
  wasOpen : channel.isOpen = true
  received : next.received = channel.received
  finish : next.finish = channel.finish
  queue : next.queue =
    channel.queue ++ if channel.finish = none then (read.chunk? moment).toList else []
  going : next.isOpen = true → read.isLast = false

theorem forwards_of_forward {channel next : Channel} {moment : Nat} {read : PipeRead}
    (forwarded : channel.forward moment read = some next) :
    Forwards channel moment read next := by
  unfold forward at forwarded
  split at forwarded
  next possible =>
    have wasOpen : channel.isOpen = true := (Bool.and_eq_true_iff.mp possible).1
    cases read with
    | bytes chunk =>
      cases finish : channel.finish with
      | none =>
        simp only [finish, Option.isNone_none, if_true, Option.some.injEq] at forwarded
        subst forwarded
        exact ⟨wasOpen, rfl, finish.symm, by simp [finish, PipeRead.chunk?], fun _ => rfl⟩
      | some how =>
        simp only [finish, Option.isNone_some, Bool.false_eq_true, if_false,
          Option.some.injEq] at forwarded
        subst forwarded
        exact ⟨wasOpen, rfl, finish.symm, by simp [finish], fun _ => rfl⟩
    | interrupted =>
      cases forwarded
      exact ⟨wasOpen, rfl, rfl, by simp [PipeRead.chunk?], fun _ => rfl⟩
    | failed | ended =>
      cases forwarded
      exact ⟨wasOpen, rfl, rfl, by simp [PipeRead.chunk?], fun shut => by cases shut⟩
  next => cases forwarded

theorem of_receive {channel next : Channel} (received : channel.receive = some next) :
    ∃ chunk queue, channel.queue = chunk :: queue ∧
      next = { channel with queue, received := channel.received ++ [chunk] } := by
  unfold receive at received
  split at received
  next chunk queue queued =>
    cases received
    exact ⟨chunk, queue, queued, rfl⟩
  next => cases received

theorem isClosed_iff {channel : Channel} :
    channel.isClosed = true ↔ channel.queue = [] ∧ channel.isOpen = false := by
  simp [isClosed]

theorem isIdle_iff {channel : Channel} :
    channel.isIdle = true ↔ channel.queue = [] ∧ channel.isOpen = true := by
  simp [isIdle]

end Channel

end Conformance
