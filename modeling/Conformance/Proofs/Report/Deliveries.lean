import Conformance.Proofs.Run.BrokenSink

/-! # Reports that go on after a fault

A reporter can be told further events after a call that failed, in any order and any number of
times.  Over a sink that takes a limited number of bytes, or one of whose flushes fails, the sink
then holds the beginning of what a sink without faults holds, and which calls fail can be told
from the events.

A call that fails at its writes leaves the sink full, so later calls that write anything fail in
the same way, while calls that write nothing still succeed (`put_of_refused`, `put_of_fitting`).
Flushes are counted only where they are reached, so every failed write moves the flush that
fails to a later event.
-/

namespace Conformance

namespace Sink

/-- The bytes that a sink with this limit keeps. -/
def cut (limit : Option Nat) (bytes : List UInt8) : List UInt8 :=
  match limit with
  | some most => bytes.take most
  | none => bytes

/-- Whether bytes are refused after others: there are some, and they reach past the limit. -/
def refuses (limit : Option Nat) (before bytes : List UInt8) : Prop :=
  bytes ≠ [] ∧ exceeds limit (before ++ bytes).length = true

variable {sink : Sink} {before bytes : List UInt8}

theorem put_of_refused (thenFlush : Bool) (taken : sink.taken = cut sink.limit before)
    (refused : refuses sink.limit before bytes) :
    sink.put bytes thenFlush =
      ({ sink with taken := cut sink.limit (before ++ bytes) }, some sink.refusal) := by
  obtain ⟨written, beyond⟩ := refused
  cases limit : sink.limit with
  | none => simp [exceeds, limit] at beyond
  | some most =>
    simp only [exceeds, limit, List.length_append, decide_eq_true_eq] at beyond
    simp only [limit, cut] at taken
    have length : sink.taken.length = min most before.length := by rw [taken, List.length_take]
    have nonempty : 0 < bytes.length := List.length_pos_iff.mpr written
    rw [put_of_exceeds thenFlush limit (by omega) (by omega), taken, cut, List.take_append]
    -- Of the bytes as many are kept as there was room for behind what was told before.
    have room : most - (before.take most).length = most - before.length := by
      rw [List.length_take]
      omega
    rw [room, limit]

theorem put_of_fitting (thenFlush : Bool) (taken : sink.taken = cut sink.limit before)
    (fits : ¬ refuses sink.limit before bytes) :
    sink.put bytes thenFlush =
      ({ sink with
          taken := cut sink.limit (before ++ bytes)
          flushes := sink.flushes + if thenFlush then 1 else 0 },
        if thenFlush ∧ sink.badFlush = some (sink.flushes + 1) then
          some (.because "flush failed") else none) := by
  have kept : sink.taken ++ bytes = cut sink.limit (before ++ bytes) ∧
      exceeds sink.limit (sink.taken.length + bytes.length) = false := by
    cases limit : sink.limit with
    | none => simp [taken, cut, limit, exceeds]
    | some most =>
      simp only [taken, limit, cut, exceeds, List.length_take, decide_eq_false_iff_not]
      by_cases empty : bytes = []
      · rw [empty, List.append_nil, List.append_nil, List.length_nil]
        exact ⟨rfl, by omega⟩
      · -- There are bytes, so not to be refused they end within the limit.
        have within : (before ++ bytes).length ≤ most := by
          simpa [refuses, exceeds, limit, empty] using fits
        have whole := List.take_of_length_le within
        rw [List.length_append] at within
        rw [whole, List.take_of_length_le (by omega)]
        simp
        omega
  rw [put_of_within thenFlush kept.2, kept.1]

theorem cut_prefix (limit : Option Nat) (before bytes : List UInt8) :
    cut limit before <+: cut limit (before ++ bytes) := by
  cases limit with
  | none => exact List.prefix_append before bytes
  | some most =>
    rw [cut, cut, List.take_append]
    exact List.prefix_append ..

end Sink

theorem Event.flushes_iff {event : Event} :
    event.flushes = true ↔ ∀ count, event ≠ .started count := by
  cases event <;> simp [Event.flushes]

/-- Whether a call got as far as its flush. -/
def Delivery.reachesFlush (delivery : Delivery) : Bool :=
  delivery.event.flushes && delivery.fault != some (.because "sink closed")

/-- How a call ends, given the calls before it. -/
structure Style.Delivers (style : Style) (limit badFlush : Option Nat) (before : List Delivery)
    (delivery : Delivery) : Prop where
  closed : delivery.fault = some (.because "sink closed") ↔
    Sink.refuses limit (style.written (before.map Delivery.event))
      (Utf8.encode (style.render delivery.event))
  unflushed : delivery.fault = some (.because "flush failed") ↔
    delivery.fault ≠ some (.because "sink closed") ∧ delivery.event.flushes = true ∧
      badFlush = some ((before ++ [delivery]).countP Delivery.reachesFlush)
  otherwise : delivery.fault = none ∨ delivery.fault = some (.because "sink closed") ∨
    delivery.fault = some (.because "flush failed")

namespace Transcript

/-- A transcript over a sink with these faults, after these events. -/
structure Follows (style : Style) (limit badFlush : Option Nat) (told : List Event)
    (transcript : Transcript) : Prop where
  sink : transcript.sink =
    { limit, badFlush, taken := Sink.cut limit (style.written told)
      flushes := transcript.deliveries.countP Delivery.reachesFlush }
  events : transcript.deliveries.map Delivery.event = told
  written : transcript.deliveries.flatMap Delivery.written = transcript.sink.taken
  each : ∀ before delivery after, transcript.deliveries = before ++ delivery :: after →
    style.Delivers limit badFlush before delivery

variable {style : Style} {limit badFlush : Option Nat} {told : List Event}
  {transcript : Transcript} {event : Event}

/-! ## One call -/

/-- What is noted about a call that leaves the sink like this. -/
def note (transcript : Transcript) (event : Event) (next : Sink) (fault : Option IoFault) :
    Delivery :=
  ⟨event, next.taken.drop transcript.sink.taken.length, fault⟩

theorem deliver_eq {next : Sink} {fault : Option IoFault}
    (call : style.reporter.notify transcript.sink event = (next, fault)) :
    (transcript.deliver style event).1 =
      ⟨next, transcript.deliveries ++ [transcript.note event next fault]⟩ := by
  simp [deliver, call, note]

theorem Follows.concat (follows : transcript.Follows style limit badFlush told) {next : Sink}
    {fault : Option IoFault} (call : style.reporter.notify transcript.sink event = (next, fault))
    (leaves : next =
      { limit, badFlush, taken := Sink.cut limit (style.written (told ++ [event]))
        flushes := (transcript.deliveries ++ [transcript.note event next fault]).countP
          Delivery.reachesFlush })
    (delivers : style.Delivers limit badFlush transcript.deliveries
      (transcript.note event next fault)) :
    (transcript.deliver style event).1.Follows style limit badFlush (told ++ [event]) := by
  rw [deliver_eq call]
  refine ⟨leaves, by simp [follows.events, note], ?_, ?_⟩
  · have grows : transcript.sink.taken <+: next.taken := by
      rw [follows.sink, leaves, Style.written_append]
      exact Sink.cut_prefix ..
    rw [List.flatMap_append, follows.written, List.flatMap_singleton]
    exact List.prefix_iff_eq_append.mp grows
  · -- A call is one of those before, or it is the last.
    intro before found after split
    rcases List.eq_nil_or_concat after with rfl | ⟨after, last, rfl⟩
    · obtain ⟨rfl, same⟩ := List.append_inj' split rfl
      obtain rfl := List.singleton_inj.mp same
      exact delivers
    · have shorter : transcript.deliveries ++ [transcript.note event next fault] =
          (before ++ found :: after) ++ [last] := by
        simpa using split
      exact follows.each before found after (List.append_inj' shorter rfl).1

/-- One more call, whether or not one failed before. -/
theorem Follows.deliver (follows : transcript.Follows style limit badFlush told) (event : Event) :
    (transcript.deliver style event).1.Follows style limit badFlush (told ++ [event]) := by
  have taken : transcript.sink.taken = Sink.cut transcript.sink.limit (style.written told) := by
    rw [follows.sink]
  have limited : transcript.sink.limit = limit := by rw [follows.sink]
  have through : style.written told ++ Utf8.encode (style.render event) =
      style.written (told ++ [event]) := by
    simp
  by_cases refused : Sink.refuses limit (style.written told) (Utf8.encode (style.render event))
  · -- The writes fail, and the flush is not reached.
    have call : style.reporter.notify transcript.sink event = _ :=
      Sink.put_of_refused event.flushes taken (limited ▸ refused)
    rw [limited, through] at call
    have refusal : transcript.sink.refusal = .because "sink closed" := by rw [follows.sink]
    rw [refusal] at call
    refine follows.concat call ?_ ⟨?_, ?_, ?_⟩
    · rw [follows.sink]
      simp [note, Delivery.reachesFlush]
    · simpa [note, follows.events] using refused
    · simp [note]
    · simp [note]
  · have call : style.reporter.notify transcript.sink event = _ :=
      Sink.put_of_fitting event.flushes taken (limited ▸ refused)
    rw [limited, through] at call
    have counted : transcript.sink.flushes =
        transcript.deliveries.countP Delivery.reachesFlush := by rw [follows.sink]
    have bad : transcript.sink.badFlush = badFlush := by rw [follows.sink]
    rw [counted, bad] at call
    generalize ends : ite (event.flushes = true ∧ badFlush = some _) _ none = fault at call
    have unclosed : fault ≠ some (.because "sink closed") := by
      rw [← ends]
      split <;> simp
    refine follows.concat call ?_ ⟨?_, ?_, ?_⟩
    · rw [follows.sink]
      simp [note, Delivery.reachesFlush, unclosed]
    · simpa [note, follows.events, unclosed] using refused
    · cases flushes : event.flushes <;>
        simp [note, Delivery.reachesFlush, flushes, ← ends]
    · show fault = none ∨ _ ∨ _
      rw [← ends]
      by_cases fails : event.flushes = true ∧
        badFlush = some (transcript.deliveries.countP Delivery.reachesFlush + 1)
      · exact .inr (.inr (if_pos fails))
      · exact .inl (if_neg fails)

/-! ## All calls -/

theorem ofEvents_concat (style : Style) (sink : Sink) (events : List Event) (event : Event) :
    ofEvents style sink (events ++ [event]) =
      ((ofEvents style sink events).deliver style event).1 := by
  simp [ofEvents]

theorem follows_ofEvents (style : Style) (limit badFlush : Option Nat) (events : List Event) :
    (ofEvents style { limit, badFlush } events).Follows style limit badFlush events := by
  induction events using List.reverseRecOn with
  | nil =>
    refine ⟨?_, rfl, rfl, ?_⟩
    · cases limit <;> simp [ofEvents, Sink.cut]
    · intro before delivery after split
      simp [ofEvents] at split
  | append_singleton events event ih =>
    rw [ofEvents_concat]
    exact ih.deliver event

/-- Over a sink without faults every call succeeds and writes what is rendered for its event. -/
theorem ofEvents_sound (style : Style) (events : List Event) :
    (ofEvents style {} events).sink.Sound ∧
      (ofEvents style {} events).sink.taken = style.written events ∧
      (ofEvents style {} events).deliveries =
        events.map fun event => ⟨event, Utf8.encode (style.render event), none⟩ := by
  induction events using List.reverseRecOn with
  | nil => exact ⟨⟨rfl, rfl⟩, rfl, rfl⟩
  | append_singleton events event ih =>
    obtain ⟨sound, taken, deliveries⟩ := ih
    obtain ⟨unfailed, whole⟩ := style.notify_of_sound sound event
    obtain ⟨-, stays⟩ :=
      Sink.put_of_sound sound (Utf8.encode (style.render event)) event.flushes
    rw [ofEvents_concat, deliver_eq (Prod.eta _).symm]
    refine ⟨stays, ?_, ?_⟩
    · simp [whole, taken]
    · rw [note, whole, List.drop_left, unfailed, deliveries, List.map_append]
      rfl

/-- A report over a sink that takes a limited number of bytes, or one of whose flushes fails, told
    any events and told on after every fault.  However a call cuts its bytes into writes, it does
    the same to the sink.  Over a sink without faults no call fails and every byte is kept; the
    broken sink keeps the beginning of that, up to its limit.  A call is closed out if it writes
    anything and reaches past the limit with it; of the other calls that are not the start of a
    run, and so reach their flush, the one with the number of the bad flush fails; and all else
    succeeds. -/
theorem ofEvents_over_brokenSink (style : Style) (limit badFlush : Option Nat)
    (events : List Event) :
    let sound := ofEvents style {} events
    let broken := ofEvents style { limit, badFlush } events
    (∀ sink event pieces, pieces.flatten = Utf8.encode (style.render event) →
      sink.putEach pieces event.flushes = style.reporter.notify sink event) ∧
    sound.deliveries =
      events.map (fun event => ⟨event, Utf8.encode (style.render event), none⟩) ∧
    sound.sink.taken = sound.deliveries.flatMap Delivery.written ∧
    broken.deliveries.map Delivery.event = events ∧
    broken.sink.taken = broken.deliveries.flatMap Delivery.written ∧
    broken.sink.taken = Sink.cut limit sound.sink.taken ∧
    broken.sink.flushes = broken.deliveries.countP Delivery.reachesFlush ∧
    ∀ before delivery after, broken.deliveries = before ++ delivery :: after →
      let through := style.written (before.map Delivery.event ++ [delivery.event])
      (delivery.fault = some (.because "sink closed") ↔
        Utf8.encode (style.render delivery.event) ≠ [] ∧
          Sink.exceeds limit through.length = true) ∧
      (delivery.fault = some (.because "flush failed") ↔
        delivery.fault ≠ some (.because "sink closed") ∧
          (∀ count, delivery.event ≠ .started count) ∧
          badFlush = some ((before ++ [delivery]).countP Delivery.reachesFlush)) ∧
      (delivery.fault ≠ some (.because "sink closed") →
        delivery.fault ≠ some (.because "flush failed") → delivery.fault = none) := by
  intro sound broken
  have follows := follows_ofEvents style limit badFlush events
  obtain ⟨-, taken, deliveries⟩ := ofEvents_sound style events
  refine ⟨?_, deliveries, ?_, follows.events, follows.written.symm, ?_, ?_, ?_⟩
  · intro sink event pieces whole
    rw [Sink.putEach_eq_put, whole, Style.notify_eq]
  · simp only [sound, taken, deliveries, List.flatMap_map]
    rfl
  · simp only [broken, follows.sink, sound, taken]
  · simp only [broken, follows.sink]
  · intro before delivery after split through
    obtain ⟨closed, unflushed, otherwise⟩ := follows.each before delivery after split
    refine ⟨?_, ?_, ?_⟩
    · simp [closed, Sink.refuses, through]
    · rw [unflushed, Event.flushes_iff]
    · intro unclosed flushed
      rcases otherwise with none | closed | failed
      · exact none
      · exact absurd closed unclosed
      · exact absurd failed flushed

-- The first call fills the sink.  The two behind it write nothing: the first of them succeeds,
-- and the other reaches the first flush.
example :
    (ofEvents (.console {}) { limit := some 5, badFlush := some 1 }
        [.started 0, .started 2, .completed ⟨{}, 0, false, .zero⟩, .started 0]).deliveries.map
      Delivery.fault =
      [some (.because "sink closed"), none, some (.because "flush failed"),
        some (.because "sink closed")] := by
  decide +kernel

end Transcript

end Conformance
