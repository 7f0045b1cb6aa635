import Conformance.Proofs.Run.Course

/-! # What reports leave in their sinks

As long as no call fails, the sink of a report has taken what was rendered for the events,
one after the other.  Over a sink without a limit and without a flush that fails, no call
does: the reporters of the program are reliable there.
-/

namespace Conformance

namespace Sink

/-- A sink that takes everything. -/
structure Sound (sink : Sink) : Prop where
  limit : sink.limit = none
  badFlush : sink.badFlush = none

theorem flush_taken (sink : Sink) : sink.flush.1.taken = sink.taken := rfl

theorem write_taken {sink : Sink} {bytes : List UInt8}
    (unfailed : (sink.write bytes).2 = none) :
    (sink.write bytes).1.taken = sink.taken ++ bytes := by
  have fits : bytes.length ≤ sink.room bytes.length := by simpa [write] using unfailed
  simp [write, List.take_of_length_le fits]

theorem put_taken {sink : Sink} {bytes : List UInt8} {thenFlush : Bool}
    (unfailed : (sink.put bytes thenFlush).2 = none) :
    (sink.put bytes thenFlush).1.taken = sink.taken ++ bytes := by
  rcases written : sink.write bytes with ⟨next, _ | fault⟩
  · have taken := @write_taken sink bytes (by rw [written])
    simp only [written] at taken
    cases thenFlush <;> simp [put, written, flush_taken, taken]
  · simp [put, written] at unfailed

theorem put_of_sound {sink : Sink} (sound : sink.Sound) (bytes : List UInt8)
    (thenFlush : Bool) :
    (sink.put bytes thenFlush).2 = none ∧ (sink.put bytes thenFlush).1.Sound := by
  have written : sink.write bytes = ({ sink with taken := sink.taken ++ bytes }, none) := by
    simp [write, room, sound.limit]
  simp only [put, written]
  cases thenFlush with
  | false => exact ⟨rfl, sound.limit, sound.badFlush⟩
  | true => exact ⟨by simp [flush, sound.badFlush], sound.limit, sound.badFlush⟩

end Sink

namespace Style

/-- The bytes that events are reported with. -/
def written (style : Style) (events : List Event) : List UInt8 :=
  events.flatMap fun event => Utf8.encode (style.render event)

/-- A call over such a sink succeeds, and the sink takes what is rendered for the event. -/
theorem notify_of_sound (style : Style) {sink : Sink} (sound : sink.Sound) (event : Event) :
    (style.reporter.notify sink event).2 = none ∧
      (style.reporter.notify sink event).1.taken =
        sink.taken ++ Utf8.encode (style.render event) := by
  have unfailed := (Sink.put_of_sound sound (Utf8.encode (style.render event)) event.flushes).1
  exact ⟨unfailed, Sink.put_taken unfailed⟩

theorem reliable_of_sound (style : Style) {sink : Sink} (sound : sink.Sound) :
    style.reporter.Reliable sink := by
  intro events
  induction events generalizing sink with
  | nil => trivial
  | cons event events ih =>
    obtain ⟨unfailed, stays⟩ :=
      Sink.put_of_sound sound (Utf8.encode (style.render event)) event.flushes
    exact ⟨unfailed, ih stays⟩

theorem taken_of_accepts (style : Style) {sink : Sink} {events : List Event}
    (accepts : style.reporter.Accepts sink events) :
    (style.reporter.stateAfter sink events).taken = sink.taken ++ style.written events := by
  induction events generalizing sink with
  | nil => simp [written]
  | cons event events ih =>
    obtain ⟨unfailed, accepts⟩ := accepts
    have taken : (style.reporter.notify sink event).1.taken = _ := Sink.put_taken unfailed
    simp [ih accepts, taken, written]

end Style

theorem Plan.run_over_soundSink {plan : Plan Sink} {style : Style}
    (reports : plan.reporter = style.reporter) :
    (plan.run {}).effects = plan.script ∧ (plan.run {}).result = plan.verdictOnRun ∧
      (plan.run {}).state.taken = style.written (Effect.events plan.script) := by
  have accepts : plan.reporter.Accepts {} (Effect.events plan.script) := by
    rw [reports]
    exact style.reliable_of_sound ⟨rfl, rfl⟩ _
  rw [plan.run_of_accepts accepts]
  refine ⟨rfl, rfl, ?_⟩
  rw [reports] at accepts ⊢
  simpa using style.taken_of_accepts accepts

end Conformance
