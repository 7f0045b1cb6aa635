import Conformance.Proofs.Subject.Drain
import Conformance.Subject.Invoke

/-! # What is collected of the output

However the readers, the collector and the clock interleave, what is collected from a pipe is
the beginning of what came out of it, chunk by chunk and in order.  The collector lets go of a
channel when it is closed, and then it has everything; or when it finds nothing there after
the deadline.  Until then it takes whatever comes, so that the deadline bounds what is dropped
and not what is kept.

* `collects_in_order`: nothing is lost, doubled or reordered.
* `collects_until_letting_go`: what is kept and what is dropped.
* `lateChunks_collected`: chunks that come after the deadline can be kept, without end.
-/

namespace Conformance.Drain

variable {deadline : Nat} {turns : List Turn} {drain next : Drain} {turn : Turn}
  {stream : Stream}

/-! ## Accounts -/

/-- What the reader of a pipe has come to: once it is done nothing more is read, and the end of
    the pipe is the last thing that is read. -/
structure ReaderAccounts (reads : List PipeRead) (channel : Channel) : Prop where
  going : channel.isOpen = true → ∀ read ∈ reads, read.isLast = false
  ended : .ended ∈ reads →
    ∃ before, reads = before ++ [.ended] ∧ ∀ read ∈ before, read.isLast = false

theorem ReaderAccounts.read {reads : List PipeRead} {read : PipeRead} {channel next : Channel}
    {moment : Nat} (accounts : ReaderAccounts reads channel)
    (forwards : channel.Forwards moment read next) :
    ReaderAccounts (reads ++ [read]) next := by
  have earlier := accounts.going forwards.wasOpen
  constructor
  · intro stillOpen other member
    rcases List.mem_append.mp member with before | now
    · exact earlier other before
    · rw [List.mem_singleton.mp now]
      exact forwards.going stillOpen
  · intro member
    rcases List.mem_append.mp member with before | now
    · cases earlier _ before
    · cases List.mem_singleton.mp now
      exact ⟨reads, rfl, earlier⟩

theorem readerAccounts_of_run (runs : run deadline turns = some drain) (stream : Stream) :
    ReaderAccounts (readsOf stream turns) (drain.channel stream) := by
  refine Interleaving.foldlM_induction
    (motive := fun turns drain => ReaderAccounts (readsOf stream turns) (drain.channel stream))
    ⟨by simp [readsOf], by simp [readsOf]⟩ ?_ runs
  intro before drain turn next runs accounts taken
  have acts := acts_of_run runs taken stream
  generalize next.channel stream = after at acts ⊢
  rw [readsOf_concat]
  cases acts with
  | rests unread => simpa [unread] using accounts
  | reads forwards =>
    rw [read?_reads]
    exact accounts.read forwards
  | receives | closes | givesUp =>
    simp only [Turn.read?, Option.toList_none, List.append_nil]
    exact ⟨accounts.going, accounts.ended⟩

/-- The turns before the one in which the collector lets go of a channel. -/
def LetsGo (deadline : Nat) (stream : Stream) (turns before : List Turn) : Prop :=
  ∃ last after drain next, turns = before ++ last :: after ∧ run deadline before = some drain ∧
    step deadline drain last = some next ∧ (drain.channel stream).finish = none ∧
    (next.channel stream).finish ≠ none

theorem LetsGo.concat {before : List Turn} (letsGo : LetsGo deadline stream turns before)
    (turn : Turn) : LetsGo deadline stream (turns ++ [turn]) before := by
  obtain ⟨last, after, drain, next, rfl, rest⟩ := letsGo
  exact ⟨last, after ++ [turn], drain, next, by simp, rest⟩

/-- What a channel tells about the turns that led to it.  Until the collector lets go of it,
    nothing is missing; afterwards it holds what was read up to then. -/
structure Accounts (deadline : Nat) (stream : Stream) (turns : List Turn) (channel : Channel) :
    Prop where
  kept : channel.finish = none → channel.received ++ channel.queue = readings stream turns
  closed : channel.finish = some .closed →
    channel.isOpen = false ∧ channel.received = readings stream turns
  letsGo : ∀ how, channel.finish = some how →
    ∃ before, LetsGo deadline stream turns before ∧
      channel.received = readings stream before ∧ (how = .gaveUp → deadline ≤ elapsed before)

theorem Accounts.rest {channel : Channel} (accounts : Accounts deadline stream turns channel)
    (unread : turn.read? stream = none) :
    Accounts deadline stream (turns ++ [turn]) channel := by
  have same : readings stream (turns ++ [turn]) = readings stream turns := by
    simp [readings_concat, chunk?_of_unread unread]
  refine ⟨by simpa [same] using accounts.kept, by simpa [same] using accounts.closed, ?_⟩
  intro how finish
  obtain ⟨before, letsGo, rest⟩ := accounts.letsGo how finish
  exact ⟨before, letsGo.concat turn, rest⟩

theorem Accounts.read {channel after : Channel} {read : PipeRead}
    (accounts : Accounts deadline stream turns channel)
    (forwards : channel.Forwards (elapsed turns) read after) :
    Accounts deadline stream (turns ++ [.reads stream read]) after := by
  have taken : readings stream (turns ++ [.reads stream read]) =
      readings stream turns ++ (read.chunk? (elapsed turns)).toList := by
    rw [readings_concat, Turn.chunk?, read?_reads, Option.bind_some]
  constructor
  · intro unfinished
    rw [forwards.finish] at unfinished
    rw [forwards.received, forwards.queue, if_pos unfinished, taken, ← accounts.kept unfinished,
      List.append_assoc]
  · -- Nothing is read from a channel that was found closed.
    intro closed
    rw [forwards.finish] at closed
    have shut := (accounts.closed closed).1
    rw [forwards.wasOpen] at shut
    cases shut
  · intro how finish
    rw [forwards.finish] at finish
    obtain ⟨before, letsGo, rest⟩ := accounts.letsGo how finish
    rw [forwards.received]
    exact ⟨before, letsGo.concat _, rest⟩

theorem accounts_of_run (runs : run deadline turns = some drain) (stream : Stream) :
    Accounts deadline stream turns (drain.channel stream) := by
  refine Interleaving.foldlM_induction
    (motive := fun turns drain => Accounts deadline stream turns (drain.channel stream))
    ?_ ?_ runs
  · cases stream <;> exact ⟨fun _ => rfl, by simp [channel], by simp [channel]⟩
  · intro before drain turn next runs accounts taken
    have clock := clock_of_run runs
    have acts := acts_of_run runs taken stream
    -- Whichever way the collector lets go of the channel, this is the turn in which it does.
    have letsGo (unfinished : (drain.channel stream).finish = none)
        (finished : (next.channel stream).finish ≠ none) :
        LetsGo deadline stream (before ++ [turn]) before :=
      ⟨turn, [], drain, next, rfl, runs, taken, unfinished, finished⟩
    generalize next.channel stream = after at acts letsGo ⊢
    cases acts with
    | rests unread => exact accounts.rest unread
    | reads forwards => exact accounts.read (clock ▸ forwards)
    | @receives chunk queue unfinished queued =>
      have same := (accounts.rest rfl : Accounts deadline stream (before ++ [.receives]) _)
      refine ⟨fun _ => ?_, ?_, ?_⟩
      · rw [← same.kept unfinished, queued, List.append_assoc, List.singleton_append]
      · intro impossible
        rw [unfinished] at impossible
        cases impossible
      · intro how impossible
        rw [unfinished] at impossible
        cases impossible
    | closes unfinished empty shut =>
      have all := accounts.kept unfinished
      rw [empty, List.append_nil] at all
      refine ⟨fun impossible => (by cases impossible), fun _ => ⟨shut, ?_⟩, ?_⟩
      · simp [readings_concat, Turn.chunk?, Turn.read?, all]
      · intro how finish
        cases finish
        exact ⟨before, letsGo unfinished (by simp), all, fun impossible => by cases impossible⟩
    | givesUp unfinished empty up =>
      have all := accounts.kept unfinished
      rw [empty, List.append_nil] at all
      refine ⟨fun impossible => (by cases impossible), fun impossible => (by cases impossible), ?_⟩
      intro how finish
      cases finish
      exact ⟨before, letsGo unfinished (by simp), all, fun _ => clock ▸ up⟩

/-! ## The prompt collector -/

theorem foldlM_reading (deadline : Nat) (drain : Drain) {chunks : List (List UInt8)}
    (possible : ∀ chunk ∈ chunks, (PipeRead.bytes chunk).isPossible = true)
    (isOpen : (drain.channel stream).isOpen = true)
    (unfinished : (drain.channel stream).finish = none) :
    (readingTurns stream chunks).foldlM (step deadline) drain =
      some (drain.withChannel stream
        { drain.channel stream with
          queue := (drain.channel stream).queue ++ chunks.map (⟨·, drain.clock⟩) }) := by
  unfold readingTurns
  induction chunks generalizing drain with
  | nil => cases stream <;> simp [withChannel, channel]
  | cons chunk chunks ih =>
    have first : step deadline drain (.reads stream (.bytes chunk)) =
        some (drain.withChannel stream
          { drain.channel stream with
            queue := (drain.channel stream).queue ++ [⟨chunk, drain.clock⟩] }) := by
      simp [step, Channel.forward, isOpen, unfinished, possible chunk (List.mem_cons_self ..)]
    have others : ∀ other ∈ chunks, (PipeRead.bytes other).isPossible = true :=
      fun other member => possible other (List.mem_cons_of_mem _ member)
    rw [List.map_cons, List.foldlM_cons, first, Option.bind_eq_bind, Option.bind_some,
      ih _ others (by simpa using isOpen) (by simpa using unfinished)]
    cases stream <;> simp [withChannel, channel]

theorem foldlM_receiving (deadline : Nat) (drain : Drain) {chunks : List (List UInt8)}
    {moment : Nat} (asking : drain.phase = .asking stream)
    (queued : (drain.channel stream).queue = chunks.map (⟨·, moment⟩)) :
    (receivingTurns chunks).foldlM (step deadline) drain =
      some (drain.withChannel stream
        { drain.channel stream with
          queue := []
          received := (drain.channel stream).received ++ chunks.map (⟨·, moment⟩) }) := by
  unfold receivingTurns
  induction chunks generalizing drain with
  | nil =>
    obtain ⟨clock, ⟨_, _, _, _⟩, ⟨_, _, _, _⟩, phase⟩ := drain
    cases stream <;> simp_all [withChannel, channel]
  | cons chunk chunks ih =>
    have first : [Turn.asks, .receives].foldlM (step deadline) drain =
        some (drain.withChannel stream
          { drain.channel stream with
            queue := chunks.map (⟨·, moment⟩)
            received := (drain.channel stream).received ++ [⟨chunk, moment⟩] }) := by
      obtain ⟨clock, stdout, stderr, phase⟩ := drain
      subst asking
      cases stream <;> simp_all [step, Channel.receive, channel, withChannel]
    rw [List.flatMap_cons, List.foldlM_append, first, Option.bind_eq_bind, Option.bind_some,
      ih _ (by simpa using asking) (by simp)]
    cases stream <;> simp [withChannel, channel]

/-- What a collector that loses no time leaves of a channel. -/
def drained (chunks : List (List UInt8)) (moment : Nat) (closed : Bool) : Channel :=
  { received := chunks.map (⟨·, moment⟩)
    isOpen := !closed
    finish := some (if closed then .closed else .gaveUp) }

theorem bytes_drained (chunks : List (List UInt8)) (moment : Nat) (closed : Bool) :
    (drained chunks moment closed).bytes = chunks.flatten := by
  simp only [Channel.bytes, drained, List.flatMap_map, List.flatMap_id']

section Ending

variable (deadline moment writtenAt : Nat) (stdout stderr : List (List UInt8))

/-- The channels when everything was read and standard output was received. -/
def halfway : Drain :=
  { clock := moment
    stdout := { received := stdout.map (⟨·, writtenAt⟩) }
    stderr := { queue := stderr.map (⟨·, writtenAt⟩) } }

theorem foldlM_closing (span : Nat) :
    ([Turn.asks, .passes span, .reads .stdout .ended, .reads .stderr .ended, .closes] ++
        receivingTurns stderr ++ [Turn.asks, .closes]).foldlM (step deadline)
        (halfway moment writtenAt stdout stderr) =
      some ⟨moment + span, drained stdout writtenAt true, drained stderr writtenAt true,
        .done⟩ := by
  have first : [Turn.asks, .passes span, .reads .stdout .ended, .reads .stderr .ended,
      .closes].foldlM (step deadline) (halfway moment writtenAt stdout stderr) =
      some ⟨moment + span, drained stdout writtenAt true,
        { queue := stderr.map (⟨·, writtenAt⟩), isOpen := false }, .asking .stderr⟩ := rfl
  rw [List.append_assoc, Interleaving.foldlM_append_of first,
    Interleaving.foldlM_append_of (foldlM_receiving deadline _ rfl rfl)]
  rfl

theorem foldlM_givingUp {span : Nat} (up : deadline ≤ moment + span) :
    ([Turn.asks, .passes span, .givesUp] ++
        receivingTurns stderr ++ [Turn.asks, .givesUp]).foldlM (step deadline)
        (halfway moment writtenAt stdout stderr) =
      some ⟨moment + span, drained stdout writtenAt false, drained stderr writtenAt false,
        .done⟩ := by
  have first : [Turn.asks, .passes span, .givesUp].foldlM (step deadline)
        (halfway moment writtenAt stdout stderr) =
      some ⟨moment + span, drained stdout writtenAt false,
        { queue := stderr.map (⟨·, writtenAt⟩) }, .asking .stderr⟩ := by
    have waited : moment + (deadline - moment) ≤ moment + span := by omega
    simp [step, halfway, channel, Channel.isIdle, waited, drained, letGo, withChannel, Phase.next]
  rw [List.append_assoc, Interleaving.foldlM_append_of first,
    Interleaving.foldlM_append_of (foldlM_receiving deadline _ rfl rfl)]
  simp [step, channel, Channel.isIdle, up, drained, letGo, withChannel, Phase.next]

end Ending

theorem run_promptTurns (deadline moment : Nat) (feed : Feed)
    (stdout : ∀ chunk ∈ feed.stdout, (PipeRead.bytes chunk).isPossible = true)
    (stderr : ∀ chunk ∈ feed.stderr, (PipeRead.bytes chunk).isPossible = true) :
    run deadline (promptTurns deadline moment feed) =
      some
        { clock := moment + (min feed.closedAt deadline - moment)
          stdout := drained feed.stdout (min feed.writtenAt moment) (feed.closedAt ≤ deadline)
          stderr := drained feed.stderr (min feed.writtenAt moment) (feed.closedAt ≤ deadline)
          phase := .done } := by
  have arrives : min feed.writtenAt moment + (moment - min feed.writtenAt moment) = moment := by
    omega
  rw [run, promptTurns]
  generalize min feed.writtenAt moment = written at arrives
  have reads :
      (Turn.passes written ::
        (readingTurns .stdout feed.stdout ++ readingTurns .stderr feed.stderr)).foldlM
          (step deadline) {} =
      some ⟨written, { queue := feed.stdout.map (⟨·, written⟩) },
        { queue := feed.stderr.map (⟨·, written⟩) }, .asking .stdout⟩ := by
    rw [List.foldlM_cons, step, Option.bind_eq_bind, Option.bind_some,
      Interleaving.foldlM_append_of (foldlM_reading deadline _ stdout rfl rfl),
      foldlM_reading deadline _ stderr rfl rfl]
    simp [withChannel, channel]
  have receives :
      (Turn.passes (moment - written) :: receivingTurns feed.stdout).foldlM (step deadline)
        ⟨written, { queue := feed.stdout.map (⟨·, written⟩) },
          { queue := feed.stderr.map (⟨·, written⟩) }, .asking .stdout⟩ =
      some (halfway moment written feed.stdout feed.stderr) := by
    rw [List.foldlM_cons, step, Option.bind_eq_bind, Option.bind_some,
      foldlM_receiving deadline _ rfl rfl]
    simp [withChannel, channel, arrives, halfway]
  rw [List.append_assoc, Interleaving.foldlM_append_of reads,
    Interleaving.foldlM_append_of receives]
  by_cases closes : feed.closedAt ≤ deadline
  · rw [if_pos closes, foldlM_closing, Nat.min_eq_left closes, decide_eq_true closes]
  · have up : deadline ≤ moment + (deadline - moment) := by omega
    rw [if_neg closes, foldlM_givingUp _ _ _ _ _ up, decide_eq_false closes,
      Nat.min_eq_right (Nat.le_of_not_le closes)]

end Conformance.Drain

namespace Conformance

/-- What was captured from a pipe. -/
def Invocation.output (invocation : Invocation) : Stream → List UInt8
  | .stdout => invocation.stdout
  | .stderr => invocation.stderr

/-- What a process at work writes to a pipe. -/
def Performance.output (performance : Performance) : Stream → List UInt8
  | .stdout => performance.stdout
  | .stderr => performance.stderr

namespace Invoke

variable {performance : Performance} {fixture : Fixture} {timeout : Duration}
  {reaped : TimedWait.Reaped}

theorem captured_eq (bytes : List UInt8) : captured bytes = bytes := by
  have going : ∀ read ∈ (PipeRead.cut bytes).map PipeRead.bytes, read.isLast = false := by
    intro read member
    obtain ⟨chunk, -, rfl⟩ := List.mem_map.mp member
    rfl
  have given : ((PipeRead.cut bytes).map PipeRead.bytes).flatMap PipeRead.given = bytes := by
    simp only [List.flatMap_map, PipeRead.given, List.flatMap_id']
    exact PipeRead.flatten_cut bytes
  rw [captured, PipeRead.ofChunks, PipeRead.capture_concat_ended going, given, Option.getD_some]

theorem output_observe (performance : Performance) (stream : Stream) :
    (observe performance).value.output stream = performance.output stream := by
  cases stream <;> exact captured_eq _

/-- What a subject that ended at a moment came to write to a pipe. -/
def written (performance : Performance) (moment : Nat) (stream : Stream) : List (List UInt8) :=
  if performance.writesAt ≤ moment then PipeRead.cut (performance.output stream) else []

/-- A collector that loses no time gets to its end and has all that the subject came to
    write. -/
theorem drain_of_prompt (performance : Performance) (timeout : Duration) (moment : Nat) :
    ∃ drain, Drain.run (drainDeadline timeout moment) (drainTurns performance timeout moment) =
        some drain ∧ drain.phase = .done ∧
      ∀ stream, (drain.channel stream).bytes = (written performance moment stream).flatten := by
  have possible : ∀ stream, ∀ chunk ∈ written performance moment stream,
      (PipeRead.bytes chunk).isPossible = true := by
    intro stream chunk member
    rw [written] at member
    split at member
    next => exact PipeRead.isPossible_of_mem_cut member
    next => cases member
  have runs := Drain.run_promptTurns (drainDeadline timeout moment) moment
    (feed performance moment) (possible .stdout) (possible .stderr)
  refine ⟨_, runs, rfl, ?_⟩
  intro stream
  cases stream <;> exact Drain.bytes_drained _ _ _

theorem output_collect (stream : Stream) :
    (collect performance fixture timeout reaped).value.output stream =
      (written performance reaped.moment stream).flatten := by
  obtain ⟨drain, runs, -, outputs⟩ := drain_of_prompt performance timeout reaped.moment
  rw [← outputs stream, collect, runs]
  cases stream <;> rfl

end Invoke

namespace Drain

variable {deadline : Nat} {turns : List Turn} {drain : Drain}

/-! ## Nothing is lost -/

theorem received_prefix (runs : run deadline turns = some drain) (stream : Stream) :
    (drain.channel stream).received <+: readings stream turns := by
  have accounts := accounts_of_run runs stream
  cases finish : (drain.channel stream).finish with
  | none => exact ⟨_, accounts.kept finish⟩
  | some how =>
    obtain ⟨before, ⟨last, after, -, -, rfl, -⟩, received, -⟩ := accounts.letsGo how finish
    rw [received, readings_append]
    exact List.prefix_append ..

theorem flatMap_readings (stream : Stream) (turns : List Turn) :
    (readings stream turns).flatMap Chunk.bytes =
      (readsOf stream turns).flatMap PipeRead.given :=
  flatMap_readingsFrom stream 0 turns

theorem capture_of_ended (runs : run deadline turns = some drain) {stream : Stream}
    (ended : .ended ∈ readsOf stream turns) :
    PipeRead.capture (readsOf stream turns) =
      some ((readsOf stream turns).flatMap PipeRead.given) := by
  obtain ⟨before, reads, going⟩ := (readerAccounts_of_run runs stream).ended ended
  rw [reads, PipeRead.capture_concat_ended going]
  simp [PipeRead.given]

/-- However the readers, the collector and the clock interleave, and whenever the collector
    gives up, the chunks received from a channel are the first of those that its reader took from
    the pipe, and the bytes are the first of all that came out of it.  From a channel that is
    found closed everything is received; if its pipe came to its end, that is what waiting for
    the end captures.  What is collected from a subject is what one such interleaving leaves, and
    the same as without a timeout if the subject wrote before it was reaped. -/
theorem collects_in_order (runs : run deadline turns = some drain) (stream : Stream) :
    (drain.channel stream).received <+: readings stream turns ∧
    (drain.channel stream).bytes <+: (readsOf stream turns).flatMap PipeRead.given ∧
    ((drain.channel stream).finish = some .closed →
      (drain.channel stream).bytes = (readsOf stream turns).flatMap PipeRead.given ∧
      (.ended ∈ readsOf stream turns →
        PipeRead.capture (readsOf stream turns) = some (drain.channel stream).bytes)) ∧
    ∀ performance fixture timeout reaped,
      ∃ drained,
        run (Invoke.drainDeadline timeout reaped.moment)
          (Invoke.drainTurns performance timeout reaped.moment) = some drained ∧
        drained.phase = .done ∧
        (Invoke.collect performance fixture timeout reaped).value.output stream =
          (drained.channel stream).bytes ∧
        (performance.writesAt ≤ reaped.moment →
          (Invoke.collect performance fixture timeout reaped).value.output stream =
            (Invoke.observe performance).value.output stream) := by
  have inOrder := received_prefix runs stream
  refine ⟨inOrder, ?_, ?_, ?_⟩
  · obtain ⟨rest, whole⟩ := inOrder
    rw [Channel.bytes, ← flatMap_readings, ← whole, List.flatMap_append]
    exact List.prefix_append ..
  · intro closed
    have all : (drain.channel stream).bytes = (readsOf stream turns).flatMap PipeRead.given := by
      rw [Channel.bytes, ((accounts_of_run runs stream).closed closed).2, flatMap_readings]
    exact ⟨all, fun ended => by rw [all, capture_of_ended runs ended]⟩
  · intro performance fixture timeout reaped
    obtain ⟨drained, prompt, done, outputs⟩ :=
      Invoke.drain_of_prompt performance timeout reaped.moment
    refine ⟨drained, prompt, done, ?_, ?_⟩
    · rw [Invoke.output_collect, outputs]
    · intro wrote
      rw [Invoke.output_collect, Invoke.output_observe, Invoke.written, if_pos wrote,
        PipeRead.flatten_cut]

/-- The reader of standard output is interrupted, is ahead of the collector and then behind it;
    standard error stays open and is given up. -/
theorem mixedReads_in_order :
    let turns := [Turn.reads .stdout (.bytes [97, 98]), .passes 5, .reads .stdout .interrupted,
      .asks, .reads .stderr (.bytes [120]), .receives, .asks, .reads .stdout (.bytes [99]),
      .reads .stdout .ended, .receives, .asks, .closes, .asks, .receives, .asks, .passes 95,
      .givesUp]
    ∃ drain, run 100 turns = some drain ∧ drain.phase = .done ∧
      drain.stdout.finish = some .closed ∧ .ended ∈ readsOf .stdout turns ∧
      PipeRead.capture (readsOf .stdout turns) = some drain.stdout.bytes ∧
      drain.stdout.bytes = [97, 98, 99] ∧
      drain.stderr.received <+: readings .stderr turns ∧ drain.stderr.bytes = [120] := by
  intro turns
  have runs : run 100 turns = some
      ⟨100, ⟨[], [⟨[97, 98], 0⟩, ⟨[99], 5⟩], false, some .closed⟩,
        ⟨[], [⟨[120], 5⟩], true, some .gaveUp⟩, .done⟩ := by decide
  have ended : .ended ∈ readsOf .stdout turns := by decide
  have stdout := (collects_in_order runs .stdout).2.2.1 rfl
  exact ⟨_, runs, rfl, rfl, ended, stdout.2 ended, rfl, (collects_in_order runs .stderr).1, rfl⟩

/-! ## Late chunks -/

/-- Everything that was read before the deadline is received. -/
theorem received_of_early (runs : run deadline turns = some drain) {stream : Stream}
    {how : Finish} (finished : (drain.channel stream).finish = some how) {chunk : Chunk}
    (read : chunk ∈ readings stream turns) (early : chunk.moment < deadline) :
    chunk ∈ (drain.channel stream).received := by
  have accounts := accounts_of_run runs stream
  cases how with
  | closed => rwa [(accounts.closed finished).2]
  | gaveUp =>
    obtain ⟨before, ⟨last, after, -, -, rfl, -⟩, received, up⟩ := accounts.letsGo _ finished
    rw [readings_append, List.mem_append] at read
    rcases read with inTime | late
    · rwa [received]
    · have bounds := moment_of_mem_readingsFrom late
      have waited := up rfl
      omega

/-- From a channel that the collector let go of, exactly what was read before that turn is
    received.  Everything read before the deadline is among it, since the collector gives up no
    earlier than that.  If it lets go no later than that either, nothing else is. -/
theorem collects_until_letting_go (runs : run deadline turns = some drain) (stream : Stream)
    {how : Finish} (finished : (drain.channel stream).finish = some how) :
    (∀ chunk ∈ readings stream turns, chunk.moment < deadline →
      chunk ∈ (drain.channel stream).received) ∧
    ∃ before, LetsGo deadline stream turns before ∧
      (drain.channel stream).received = readings stream before ∧
      (how = .gaveUp → deadline ≤ elapsed before) ∧
      (elapsed before ≤ deadline →
        ∀ chunk ∈ (drain.channel stream).received, chunk.moment ≤ deadline) := by
  refine ⟨fun chunk read early => received_of_early runs finished read early, ?_⟩
  obtain ⟨before, letsGo, received, up⟩ := (accounts_of_run runs stream).letsGo how finished
  refine ⟨before, letsGo, received, up, ?_⟩
  intro inTime chunk member
  rw [received] at member
  exact Nat.le_trans (moment_of_mem_readings member) inTime

/-- Standard error is given up at the deadline: what came before is kept, and what comes right
    afterwards is dropped. -/
theorem silentPipe_until_letting_go :
    let turns := [Turn.passes 10, .reads .stderr (.bytes [120]), .asks, .passes 100, .givesUp,
      .asks, .receives, .asks, .givesUp, .reads .stderr (.bytes [121])]
    ∃ drain, run 110 turns = some drain ∧ drain.stderr.finish = some .gaveUp ∧
      ⟨[120], 10⟩ ∈ drain.stderr.received ∧
      ∃ before, LetsGo 110 .stderr turns before ∧
        drain.stderr.received = readings .stderr before := by
  intro turns
  have runs : run 110 turns = some
      ⟨110, ⟨[], [], true, some .gaveUp⟩, ⟨[], [⟨[120], 10⟩], false, some .gaveUp⟩, .done⟩ := by
    decide
  have collected := collects_until_letting_go runs .stderr rfl
  obtain ⟨before, letsGo, received, -⟩ := collected.2
  exact ⟨_, runs, rfl, collected.1 ⟨[120], 10⟩ (by decide) (by decide), before, letsGo, received⟩

/-- The turns of a writer that always has a chunk ready when the collector asks. -/
def steadyTurns (chunk : List UInt8) (count : Nat) : List Turn :=
  (List.replicate count [.reads .stdout (.bytes chunk), .asks, .receives, .passes 1]).flatten

theorem foldlM_steadyTurns {chunk : List UInt8} (possible : (PipeRead.bytes chunk).isPossible)
    (deadline clock count : Nat) (received : List Chunk) :
    (steadyTurns chunk count).foldlM (step deadline)
        ⟨clock, { received }, {}, .asking .stdout⟩ =
      some ⟨clock + count,
        { received := received ++ (List.range' clock count).map (⟨chunk, ·⟩) }, {},
        .asking .stdout⟩ := by
  unfold steadyTurns
  induction count generalizing clock received with
  | zero => simp
  | succ count ih =>
    have round : [Turn.reads .stdout (.bytes chunk), .asks, .receives, .passes 1].foldlM
        (step deadline) ⟨clock, { received }, {}, .asking .stdout⟩ =
        some ⟨clock + 1, { received := received ++ [⟨chunk, clock⟩] }, {}, .asking .stdout⟩ := by
      simp [step, channel, Channel.forward, possible, withChannel, Channel.receive]
    have moved : clock + 1 + count = clock + (count + 1) := by omega
    rw [List.replicate_succ, List.flatten_cons, Interleaving.foldlM_append_of round, ih, moved,
      List.range'_succ, List.map_cons, List.append_assoc, List.singleton_append]

/-- A writer that goes on after the deadline keeps the collector at it for as long as it
    likes. -/
theorem run_steadyTurns (chunk : List UInt8) (possible : (PipeRead.bytes chunk).isPossible)
    (deadline count : Nat) :
    run deadline (.passes (deadline + 1) :: steadyTurns chunk count) =
      some ⟨deadline + 1 + count,
        { received := (List.range' (deadline + 1) count).map (⟨chunk, ·⟩) }, {},
        .asking .stdout⟩ := by
  have begins : step deadline {} (.passes (deadline + 1)) =
      some ⟨deadline + 1, {}, {}, .asking .stdout⟩ := by
    simp [step]
  rw [run, List.foldlM_cons, begins, Option.bind_eq_bind, Option.bind_some,
    foldlM_steadyTurns possible, List.nil_append]

/-- A chunk that comes to standard error after the deadline, and before the collector has turned
    to it, is kept; and a writer that goes on keeps the collector at standard output without
    end. -/
theorem lateChunks_collected :
    let turns := [Turn.passes 10, .asks, .passes 100, .givesUp, .passes 10,
      .reads .stderr (.bytes [108]), .asks, .receives, .asks, .givesUp]
    Invoke.drainDeadline (.ofMillis 10) 10 = 110 ∧
    run 110 turns = some
      ⟨120, ⟨[], [], true, some .gaveUp⟩, ⟨[], [⟨[108], 120⟩], true, some .gaveUp⟩, .done⟩ ∧
    (¬ ∀ turns drain, run 110 turns = some drain →
      ∀ stream, ∀ chunk ∈ (drain.channel stream).received, chunk.moment ≤ 110) ∧
    ∀ count, ∃ turns drain, run 110 turns = some drain ∧ drain.stdout.received.length = count ∧
      ∀ chunk ∈ drain.stdout.received, 110 < chunk.moment := by
  intro turns
  have runs : run 110 turns = some
      ⟨120, ⟨[], [], true, some .gaveUp⟩, ⟨[], [⟨[108], 120⟩], true, some .gaveUp⟩, .done⟩ := by
    decide
  refine ⟨by decide, runs, ?_, ?_⟩
  · intro inTime
    have bound := inTime turns _ runs .stderr ⟨[108], 120⟩ (List.mem_singleton.mpr rfl)
    exact absurd bound (by decide)
  · intro count
    have steady := run_steadyTurns [108] (by decide) 110 count
    refine ⟨_, _, steady, by simp, ?_⟩
    intro chunk member
    obtain ⟨moment, among, rfl⟩ := List.mem_map.mp member
    have bounds := List.mem_range'_1.mp among
    simp only
    omega

end Drain

end Conformance
