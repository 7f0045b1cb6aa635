import Conformance.Proofs.Subject.Channel
import Conformance.Proofs.Subject.Interleaving
import Conformance.Subject.Drain

/-! # What turns can do to output that is collected

`Step` says in one rule for each case what a turn can do to a drain, and `Acts` what that is
for one of its two channels.

* `readings`: what a reader took from its pipe, with the moments.
* `orderly_of_run`: the collector goes through the channels in order and waits to the deadline.
* `acts_of_run`: what the next turn can do to a channel.
-/

namespace Conformance

namespace Drain

variable {deadline : Nat} {turns : List Turn} {drain next : Drain} {turn : Turn}
  {stream : Stream}

/-! ## Turns -/

/-- How much time passes in a turn. -/
def Turn.span : Turn → Nat
  | .passes span => span
  | .reads _ _ | .asks | .receives | .closes | .givesUp => 0

/-- What is read from a pipe in a turn, if anything is. -/
def Turn.read? (stream : Stream) : Turn → Option PipeRead
  | .reads other read => if other = stream then some read else none
  | .passes _ | .asks | .receives | .closes | .givesUp => none

/-- What is read from a pipe in these turns. -/
def readsOf (stream : Stream) (turns : List Turn) : List PipeRead :=
  turns.filterMap (Turn.read? stream)

/-- How much time passes in these turns. -/
def elapsed : List Turn → Nat
  | [] => 0
  | turn :: turns => turn.span + elapsed turns

/-- The bytes that a reader takes from its pipe in a turn at a moment. -/
def Turn.chunk? (stream : Stream) (moment : Nat) (turn : Turn) : Option Chunk :=
  (turn.read? stream).bind (PipeRead.chunk? moment)

/-- The bytes that a reader takes from its pipe in these turns, of which the first is taken at
    a moment. -/
def readingsFrom (stream : Stream) (moment : Nat) : List Turn → List Chunk
  | [] => []
  | turn :: turns =>
    (turn.chunk? stream moment).toList ++ readingsFrom stream (moment + turn.span) turns

/-- The bytes that a reader takes from its pipe in these turns. -/
def readings (stream : Stream) (turns : List Turn) : List Chunk := readingsFrom stream 0 turns

theorem elapsed_append (first second : List Turn) :
    elapsed (first ++ second) = elapsed first + elapsed second := by
  induction first with
  | nil => simp [elapsed]
  | cons turn first ih => simp [elapsed, ih, Nat.add_assoc]

theorem readsOf_concat (stream : Stream) (turns : List Turn) (turn : Turn) :
    readsOf stream (turns ++ [turn]) = readsOf stream turns ++ (turn.read? stream).toList := by
  cases read : turn.read? stream <;> simp [readsOf, read]

theorem readingsFrom_append (stream : Stream) (moment : Nat) (first second : List Turn) :
    readingsFrom stream moment (first ++ second) =
      readingsFrom stream moment first ++
        readingsFrom stream (moment + elapsed first) second := by
  induction first generalizing moment with
  | nil => simp [readingsFrom, elapsed]
  | cons turn first ih =>
    have moved : moment + turn.span + elapsed first = moment + elapsed (turn :: first) := by
      simp [elapsed, Nat.add_assoc]
    simp [readingsFrom, ih, moved]

theorem readings_append (stream : Stream) (first second : List Turn) :
    readings stream (first ++ second) =
      readings stream first ++ readingsFrom stream (elapsed first) second := by
  rw [readings, readingsFrom_append, Nat.zero_add, readings]

theorem readings_concat (stream : Stream) (turns : List Turn) (turn : Turn) :
    readings stream (turns ++ [turn]) =
      readings stream turns ++ (turn.chunk? stream (elapsed turns)).toList := by
  simp [readings_append, readingsFrom]

theorem chunk?_of_unread {moment : Nat} (unread : turn.read? stream = none) :
    turn.chunk? stream moment = none := by
  simp [Turn.chunk?, unread]

theorem read?_reads (stream : Stream) (read : PipeRead) :
    (Turn.reads stream read).read? stream = some read := if_pos rfl

theorem moment_of_chunk? {moment : Nat} {chunk : Chunk}
    (taken : turn.chunk? stream moment = some chunk) : chunk.moment = moment := by
  obtain ⟨read, -, gave⟩ := Option.bind_eq_some_iff.mp taken
  cases read with
  | bytes chunk =>
    cases gave
    rfl
  | interrupted | failed | ended => cases gave

/-- What is taken in these turns is taken between their first moment and their last. -/
theorem moment_of_mem_readingsFrom {moment : Nat} {chunk : Chunk}
    (taken : chunk ∈ readingsFrom stream moment turns) :
    moment ≤ chunk.moment ∧ chunk.moment ≤ moment + elapsed turns := by
  induction turns generalizing moment with
  | nil => cases taken
  | cons turn turns ih =>
    have later : elapsed (turn :: turns) = turn.span + elapsed turns := rfl
    rcases List.mem_append.mp taken with now | after
    · have exact := moment_of_chunk? (Option.mem_toList.mp now)
      omega
    · have bounds := ih after
      omega

theorem moment_of_mem_readings {chunk : Chunk} (taken : chunk ∈ readings stream turns) :
    chunk.moment ≤ elapsed turns := by
  have bounds := moment_of_mem_readingsFrom taken
  omega

theorem flatMap_readingsFrom (stream : Stream) (moment : Nat) (turns : List Turn) :
    (readingsFrom stream moment turns).flatMap Chunk.bytes =
      (readsOf stream turns).flatMap PipeRead.given := by
  induction turns generalizing moment with
  | nil => rfl
  | cons turn turns ih =>
    rw [readingsFrom, List.flatMap_append, ih]
    cases read : turn.read? stream with
    | none => simp [readsOf, read, chunk?_of_unread read]
    | some gave => simp [readsOf, read, Turn.chunk?, PipeRead.flatMap_chunk?]

/-! ## Steps -/

@[simp] theorem channel_withChannel (drain : Drain) (stream : Stream) (channel : Channel) :
    (drain.withChannel stream channel).channel stream = channel := by
  cases stream <;> rfl

theorem channel_withChannel_of_ne {other : Stream} (drain : Drain) (channel : Channel)
    (different : other ≠ stream) :
    (drain.withChannel stream channel).channel other = drain.channel other := by
  cases stream <;> cases other <;> first | rfl | exact absurd rfl different

@[simp] theorem clock_withChannel (drain : Drain) (stream : Stream) (channel : Channel) :
    (drain.withChannel stream channel).clock = drain.clock := by
  cases stream <;> rfl

@[simp] theorem phase_withChannel (drain : Drain) (stream : Stream) (channel : Channel) :
    (drain.withChannel stream channel).phase = drain.phase := by
  cases stream <;> rfl

@[simp] theorem channel_clock (drain : Drain) (clock : Nat) (stream : Stream) :
    ({ drain with clock } : Drain).channel stream = drain.channel stream := by
  cases stream <;> rfl

@[simp] theorem channel_phase (drain : Drain) (phase : Phase) (stream : Stream) :
    ({ drain with phase } : Drain).channel stream = drain.channel stream := by
  cases stream <;> rfl

@[simp] theorem channel_letGo (drain : Drain) (stream : Stream) (how : Finish) :
    (drain.letGo stream how).channel stream =
      { drain.channel stream with finish := some how } := by
  cases stream <;> rfl

theorem channel_letGo_of_ne {other : Stream} (drain : Drain) (how : Finish)
    (different : other ≠ stream) :
    (drain.letGo stream how).channel other = drain.channel other := by
  rw [letGo, channel_phase, channel_withChannel_of_ne drain _ different]

@[simp] theorem phase_letGo (drain : Drain) (stream : Stream) (how : Finish) :
    (drain.letGo stream how).phase = .next stream := rfl

@[simp] theorem clock_letGo (drain : Drain) (stream : Stream) (how : Finish) :
    (drain.letGo stream how).clock = drain.clock := by
  cases stream <;> rfl

/-- What a turn can do, and when. -/
inductive Step (deadline : Nat) (drain : Drain) : Turn → Drain → Prop
  | passes (span : Nat) :
      Step deadline drain (.passes span) { drain with clock := drain.clock + span }
  | reads {stream : Stream} {read : PipeRead} {channel : Channel}
      (forwarded : (drain.channel stream).forward drain.clock read = some channel) :
      Step deadline drain (.reads stream read) (drain.withChannel stream channel)
  | asks {stream : Stream} (asking : drain.phase = .asking stream) :
      Step deadline drain .asks
        { drain with phase := .receiving stream (drain.clock + (deadline - drain.clock)) }
  | receives {stream : Stream} {limit : Nat} {channel : Channel}
      (receiving : drain.phase = .receiving stream limit)
      (received : (drain.channel stream).receive = some channel) :
      Step deadline drain .receives
        { drain.withChannel stream channel with phase := .asking stream }
  | closes {stream : Stream} {limit : Nat} (receiving : drain.phase = .receiving stream limit)
      (closed : (drain.channel stream).isClosed = true) :
      Step deadline drain .closes (drain.letGo stream .closed)
  | givesUp {stream : Stream} {limit : Nat} (receiving : drain.phase = .receiving stream limit)
      (idle : (drain.channel stream).isIdle = true) (up : limit ≤ drain.clock) :
      Step deadline drain .givesUp (drain.letGo stream .gaveUp)

theorem Step.of_eq_some (taken : step deadline drain turn = some next) :
    Step deadline drain turn next := by
  cases turn with
  | passes span =>
    cases taken
    exact .passes span
  | reads stream read =>
    obtain ⟨channel, forwarded, rfl⟩ := Option.map_eq_some_iff.mp taken
    exact .reads forwarded
  | asks =>
    simp only [step] at taken
    split at taken
    next stream asking =>
      cases taken
      exact .asks asking
    next => cases taken
  | receives =>
    simp only [step] at taken
    split at taken
    next stream limit receiving =>
      obtain ⟨channel, received, rfl⟩ := Option.map_eq_some_iff.mp taken
      exact .receives receiving received
    next => cases taken
  | closes =>
    simp only [step] at taken
    split at taken
    next stream limit receiving =>
      split at taken
      next closed =>
        cases taken
        exact .closes receiving closed
      next => cases taken
    next => cases taken
  | givesUp =>
    simp only [step] at taken
    split at taken
    next stream limit receiving =>
      split at taken
      next waited =>
        cases taken
        obtain ⟨idle, up⟩ := Bool.and_eq_true_iff.mp waited
        exact .givesUp receiving idle (of_decide_eq_true up)
      next => cases taken
    next => cases taken

theorem Step.clock (taken : Step deadline drain turn next) :
    next.clock = drain.clock + turn.span := by
  cases taken with
  | passes span => rfl
  | reads | asks | receives | closes | givesUp => simp [Turn.span]

/-! ## The order of the collector -/

/-- Whether the collector is still to let go of a channel. -/
def Phase.isPending : Phase → Stream → Bool
  | .asking .stdout, _ | .receiving .stdout _, _ => true
  | .asking .stderr, stream | .receiving .stderr _, stream => stream = .stderr
  | .done, _ => false

/-- The collector has let go of the channels that it is through with, and waits until the
    deadline at least. -/
structure Orderly (deadline : Nat) (drain : Drain) : Prop where
  finish : ∀ stream, (drain.channel stream).finish = none ↔ drain.phase.isPending stream = true
  limit : ∀ stream limit, drain.phase = .receiving stream limit → deadline ≤ limit

theorem isPending_asking (stream : Stream) : (Phase.asking stream).isPending stream = true := by
  cases stream <;> rfl

theorem isPending_receiving (stream : Stream) (limit : Nat) :
    (Phase.receiving stream limit).isPending = (Phase.asking stream).isPending := by
  cases stream <;> rfl

theorem isPending_next {stream other : Stream} (different : other ≠ stream) :
    (Phase.next stream).isPending other = (Phase.asking stream).isPending other := by
  cases stream <;> cases other <;> first | rfl | exact absurd rfl different

theorem isPending_next_self (stream : Stream) : (Phase.next stream).isPending stream = false := by
  cases stream <;> rfl

theorem Orderly.unfinished {limit : Nat} (orderly : Orderly deadline drain)
    (receiving : drain.phase = .receiving stream limit) :
    (drain.channel stream).finish = none := by
  rw [orderly.finish, receiving, isPending_receiving, isPending_asking]

theorem Orderly.letGo {limit : Nat} (orderly : Orderly deadline drain)
    (receiving : drain.phase = .receiving stream limit) (how : Finish) :
    Orderly deadline (drain.letGo stream how) := by
  constructor
  · intro other
    by_cases same : other = stream
    · subst same
      simp [isPending_next_self]
    · simp [channel_letGo_of_ne drain how same, orderly.finish, receiving, isPending_next same,
        isPending_receiving]
  · intro other limit impossible
    cases stream <;> cases impossible

theorem Step.orderly (taken : Step deadline drain turn next)
    (orderly : Orderly deadline drain) : Orderly deadline next := by
  cases taken with
  | passes span => exact ⟨by simpa using orderly.finish, by simpa using orderly.limit⟩
  | @reads stream read channel forwarded =>
    refine ⟨fun other => ?_, by simpa using orderly.limit⟩
    rw [phase_withChannel, ← orderly.finish other]
    by_cases same : other = stream
    · subst same
      rw [channel_withChannel, (Channel.forwards_of_forward forwarded).finish]
    · rw [channel_withChannel_of_ne drain _ same]
  | @asks stream asking =>
    constructor
    · intro other
      rw [channel_phase, orderly.finish other, asking, isPending_receiving]
    · intro other limit receiving
      cases receiving
      omega
  | @receives stream limit channel receiving received =>
    refine ⟨fun other => ?_, fun _ _ impossible => by cases impossible⟩
    obtain ⟨chunk, queue, -, rfl⟩ := Channel.of_receive received
    rw [channel_phase, ← isPending_receiving stream limit, ← receiving, ← orderly.finish other]
    by_cases same : other = stream
    · subst same
      rw [channel_withChannel]
    · rw [channel_withChannel_of_ne drain _ same]
  | closes receiving closed => exact orderly.letGo receiving .closed
  | givesUp receiving idle up => exact orderly.letGo receiving .gaveUp

theorem orderly_of_run (runs : run deadline turns = some drain) : Orderly deadline drain := by
  refine Interleaving.foldlM_induction (motive := fun _ drain => Orderly deadline drain)
    ?_ (fun _ orderly taken => (Step.of_eq_some taken).orderly orderly) runs
  exact ⟨fun stream => by cases stream <;> simp [channel, Phase.isPending], by simp⟩

theorem clock_of_run (runs : run deadline turns = some drain) : drain.clock = elapsed turns := by
  refine Interleaving.foldlM_induction (motive := fun turns drain => drain.clock = elapsed turns)
    rfl ?_ runs
  intro before drain turn next _ clock taken
  rw [(Step.of_eq_some taken).clock, clock, elapsed_append]
  simp [elapsed]

/-! ## What a turn does to a channel -/

/-- What a turn can do to the channel of a pipe, and when. -/
inductive Acts (deadline : Nat) (drain : Drain) (stream : Stream) : Turn → Channel → Prop
  | rests {turn : Turn} (unread : turn.read? stream = none) :
      Acts deadline drain stream turn (drain.channel stream)
  | reads {read : PipeRead} {channel : Channel}
      (forwards : (drain.channel stream).Forwards drain.clock read channel) :
      Acts deadline drain stream (.reads stream read) channel
  | receives {chunk : Chunk} {queue : List Chunk}
      (unfinished : (drain.channel stream).finish = none)
      (queued : (drain.channel stream).queue = chunk :: queue) :
      Acts deadline drain stream .receives
        { drain.channel stream with
          queue, received := (drain.channel stream).received ++ [chunk] }
  | closes (unfinished : (drain.channel stream).finish = none)
      (empty : (drain.channel stream).queue = [])
      (shut : (drain.channel stream).isOpen = false) :
      Acts deadline drain stream .closes { drain.channel stream with finish := some .closed }
  | givesUp (unfinished : (drain.channel stream).finish = none)
      (empty : (drain.channel stream).queue = []) (up : deadline ≤ drain.clock) :
      Acts deadline drain stream .givesUp { drain.channel stream with finish := some .gaveUp }

theorem Step.acts (taken : Step deadline drain turn next) (orderly : Orderly deadline drain)
    (stream : Stream) : Acts deadline drain stream turn (next.channel stream) := by
  cases taken with
  | passes span =>
    rw [channel_clock]
    exact .rests rfl
  | asks asking =>
    rw [channel_phase]
    exact .rests rfl
  | @reads other read channel forwarded =>
    by_cases same : stream = other
    · subst same
      rw [channel_withChannel]
      exact .reads (Channel.forwards_of_forward forwarded)
    · rw [channel_withChannel_of_ne drain _ same]
      exact .rests (if_neg (Ne.symm same))
  | @receives other limit channel receiving received =>
    obtain ⟨chunk, queue, queued, rfl⟩ := Channel.of_receive received
    rw [channel_phase]
    by_cases same : stream = other
    · subst same
      rw [channel_withChannel]
      exact .receives (orderly.unfinished receiving) queued
    · rw [channel_withChannel_of_ne drain _ same]
      exact .rests rfl
  | @closes other limit receiving closed =>
    by_cases same : stream = other
    · subst same
      obtain ⟨empty, shut⟩ := Channel.isClosed_iff.mp closed
      rw [channel_letGo]
      exact .closes (orderly.unfinished receiving) empty shut
    · rw [channel_letGo_of_ne drain _ same]
      exact .rests rfl
  | @givesUp other limit receiving idle up =>
    by_cases same : stream = other
    · subst same
      have late := Nat.le_trans (orderly.limit _ _ receiving) up
      rw [channel_letGo]
      exact .givesUp (orderly.unfinished receiving) (Channel.isIdle_iff.mp idle).1 late
    · rw [channel_letGo_of_ne drain _ same]
      exact .rests rfl

theorem acts_of_run (runs : run deadline turns = some drain)
    (taken : step deadline drain turn = some next) (stream : Stream) :
    Acts deadline drain stream turn (next.channel stream) :=
  (Step.of_eq_some taken).acts (orderly_of_run runs) stream

end Drain

end Conformance
