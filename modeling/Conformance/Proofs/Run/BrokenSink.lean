import Conformance.Proofs.Report.Sound
import Conformance.Proofs.Run.Abort
import Mathlib.Data.List.Induction

/-! # Runs over broken sinks

A sink may take only so many bytes, and one of its flushes may fail.  A run over such a sink
does what the same run does over a sink without faults, up to the first step of the report
that reaches one of the two; that step fails, and the run ends with it.

How a step cuts its text into writes makes no difference to the sink (`putEach_eq_put`), so a
step stands for all of them.  What one step does to the sink is said by `put_of_within` and
`put_of_exceeds`, what the steps before the fault leave behind by `accepts_of_spares`.
-/

namespace Conformance

variable {σ : Type}

/-! ## One step -/

namespace Sink

/-- Whether a number of bytes is more than the limit allows. -/
def exceeds (limit : Option Nat) (count : Nat) : Bool :=
  match limit with
  | some most => decide (most < count)
  | none => false

/-- Writes pieces one after the other and then, if asked to, flushes.  The first call that
    fails is the last. -/
def putEach (sink : Sink) (pieces : List (List UInt8)) (thenFlush : Bool) :
    Sink × Option IoFault :=
  match pieces with
  | [] => if thenFlush then sink.flush else (sink, none)
  | piece :: rest =>
    match sink.write piece with
    | (sink, some fault) => (sink, some fault)
    | (sink, none) => sink.putEach rest thenFlush

theorem write_of_within {sink : Sink} {bytes : List UInt8}
    (within : exceeds sink.limit (sink.taken.length + bytes.length) = false) :
    sink.write bytes = ({ sink with taken := sink.taken ++ bytes }, none) := by
  have fits : sink.room bytes.length = bytes.length := by
    unfold room
    cases limit : sink.limit with
    | none => rfl
    | some most =>
      simp only [exceeds, limit, decide_eq_false_iff_not] at within
      show min bytes.length (most - sink.taken.length) = bytes.length
      omega
  simp [write, fits]

theorem write_of_exceeds {sink : Sink} {bytes : List UInt8} {most : Nat}
    (limit : sink.limit = some most) (room : sink.taken.length ≤ most)
    (beyond : most < sink.taken.length + bytes.length) :
    sink.write bytes =
      ({ sink with taken := sink.taken ++ bytes.take (most - sink.taken.length) },
        some sink.refusal) := by
  have fitting : sink.room bytes.length = most - sink.taken.length := by
    simp only [Sink.room, limit]
    omega
  have cut : most - sink.taken.length < bytes.length := by omega
  simp [write, fitting, cut]

theorem write_append (sink : Sink) (first second : List UInt8) :
    sink.write (first ++ second) =
      match sink.write first with
      | (sink, some fault) => (sink, some fault)
      | (sink, none) => sink.write second := by
  cases limit : sink.limit with
  | none => simp [write, room, limit, List.take_length_add_append]
  | some most =>
    by_cases fits : first.length ≤ most - sink.taken.length
    · -- The first part is taken as a whole, and what is left of the room is the second's.
      have whole : min first.length (most - sink.taken.length) = first.length := by omega
      have shared : min (first.length + second.length) (most - sink.taken.length) =
          first.length + min second.length (most - (sink.taken.length + first.length)) := by
        omega
      simp [write, room, limit, whole, shared, List.take_length_add_append]
    · -- The first part is cut, and the second is never reached.
      have cut : min first.length (most - sink.taken.length) = most - sink.taken.length := by
        omega
      have cutToo : min (first.length + second.length) (most - sink.taken.length) =
          most - sink.taken.length := by omega
      have short : most - sink.taken.length < first.length := by omega
      have shorter : most - sink.taken.length < first.length + second.length := by omega
      have kept : (first ++ second).take (most - sink.taken.length) =
          first.take (most - sink.taken.length) :=
        List.take_append_of_le_length (by omega)
      simp [write, room, limit, cut, cutToo, short, shorter, kept]

/-- However the bytes of a step are cut into writes, the sink ends up the same, and so does
    the step. -/
theorem putEach_eq_put (sink : Sink) (pieces : List (List UInt8)) (thenFlush : Bool) :
    sink.putEach pieces thenFlush = sink.put pieces.flatten thenFlush := by
  induction pieces generalizing sink with
  | nil =>
    have nothing : sink.write [] = (sink, none) := by simp [write]
    rw [putEach, List.flatten_nil, put, nothing]
  | cons piece rest ih =>
    rw [putEach, List.flatten_cons, put, write_append]
    rcases written : sink.write piece with ⟨next, _ | fault⟩
    · simp only [ih next, put]
    · rfl

theorem put_of_within {sink : Sink} {bytes : List UInt8} (thenFlush : Bool)
    (within : exceeds sink.limit (sink.taken.length + bytes.length) = false) :
    sink.put bytes thenFlush =
      ({ sink with
          taken := sink.taken ++ bytes
          flushes := sink.flushes + if thenFlush then 1 else 0 },
        if thenFlush ∧ sink.badFlush = some (sink.flushes + 1) then
          some (.because "flush failed") else none) := by
  rw [put, write_of_within within]
  cases thenFlush <;> simp [flush]

theorem put_of_exceeds {sink : Sink} {bytes : List UInt8} (thenFlush : Bool) {most : Nat}
    (limit : sink.limit = some most) (room : sink.taken.length ≤ most)
    (beyond : most < sink.taken.length + bytes.length) :
    sink.put bytes thenFlush =
      ({ sink with taken := sink.taken ++ bytes.take (most - sink.taken.length) },
        some sink.refusal) := by
  rw [put, write_of_exceeds limit room beyond]

end Sink

/-! ## The steps before a fault -/

theorem Reporter.stateAfter_append (reporter : Reporter σ) (state : σ)
    (first second : List Event) :
    reporter.stateAfter state (first ++ second) =
      reporter.stateAfter (reporter.stateAfter state first) second :=
  List.foldl_append ..

theorem Reporter.accepts_append {reporter : Reporter σ} {state : σ} {first second : List Event} :
    reporter.Accepts state (first ++ second) ↔
      reporter.Accepts state first ∧
        reporter.Accepts (reporter.stateAfter state first) second := by
  induction first generalizing state with
  | nil => simp [Accepts]
  | cons event events ih => simp [Accepts, ih, and_assoc]

namespace Style

/-- Whether a step that comes after others reaches a fault: with its bytes there are more
    than the limit allows, or its flush is the one that fails. -/
def breaksAt (style : Style) (limit badFlush : Option Nat) (told : List Event) (event : Event) :
    Bool :=
  Sink.exceeds limit (style.written (told ++ [event])).length ||
    (event.flushes && badFlush == some ((told ++ [event]).countP Event.flushes))

/-- No step among the effects reaches a fault. -/
def Spares (style : Style) (limit badFlush : Option Nat) (effects : List Effect) : Prop :=
  ∀ before event fault after, effects = before ++ .notified event fault :: after →
    style.breaksAt limit badFlush (Effect.events before) event = false

theorem Spares.init {style : Style} {limit badFlush : Option Nat} {effects : List Effect}
    {last : Effect} (spares : style.Spares limit badFlush (effects ++ [last])) :
    style.Spares limit badFlush effects := by
  rintro before event fault after rfl
  exact spares before event fault (after ++ [last]) (by simp)

/-- Either no step reaches a fault, or there is a first one that does. -/
theorem spares_or_breaks (style : Style) (limit badFlush : Option Nat) (effects : List Effect) :
    style.Spares limit badFlush effects ∨
      ∃ before event fault after, effects = before ++ .notified event fault :: after ∧
        style.Spares limit badFlush before ∧
        style.breaksAt limit badFlush (Effect.events before) event = true := by
  induction effects using List.reverseRecOn with
  | nil =>
    left
    intro before event fault after split
    simp at split
  | append_singleton effects last ih =>
    rcases ih with spares | ⟨before, event, fault, after, rfl, spares, breaks⟩
    · by_cases found : ∃ event fault, last = .notified event fault ∧
          style.breaksAt limit badFlush (Effect.events effects) event = true
      · obtain ⟨event, fault, rfl, breaks⟩ := found
        exact .inr ⟨effects, event, fault, [], rfl, spares, breaks⟩
      · left
        intro before event fault after split
        rcases List.eq_nil_or_concat after with rfl | ⟨after, final, rfl⟩
        · obtain ⟨rfl, same⟩ := List.append_inj' split rfl
          obtain rfl := List.singleton_inj.mp same
          rw [Bool.eq_false_iff]
          exact fun breaks => found ⟨event, fault, rfl, breaks⟩
        · have shorter :
              effects ++ [last] = (before ++ .notified event fault :: after) ++ [final] := by
            simpa using split
          exact spares before event fault after (List.append_inj' shorter rfl).1
    · exact .inr ⟨before, event, fault, after ++ [last], by simp, spares, breaks⟩

@[simp] theorem written_nil (style : Style) : style.written [] = [] := rfl

@[simp] theorem written_append (style : Style) (first second : List Event) :
    style.written (first ++ second) = style.written first ++ style.written second :=
  List.flatMap_append ..

@[simp] theorem written_singleton (style : Style) (event : Event) :
    style.written [event] = Utf8.encode (style.render event) :=
  List.flatMap_singleton ..

/-- The sink with these faults once it took the steps of a report. -/
def filled (style : Style) (limit badFlush : Option Nat) (told : List Event) : Sink :=
  { limit, badFlush, taken := style.written told, flushes := told.countP Event.flushes }

/-- How many of `count` bytes a sink with this limit keeps. -/
def kept (limit : Option Nat) (count : Nat) : Nat :=
  match limit with
  | some most => min most count
  | none => count

theorem kept_le (limit : Option Nat) (count : Nat) : kept limit count ≤ count := by
  cases limit with
  | none => exact Nat.le_refl count
  | some most => exact Nat.min_le_right most count

/-- What a step that reaches a fault fails with, given the bytes through it. -/
def causeOf (limit : Option Nat) (count : Nat) : IoFault :=
  if Sink.exceeds limit count then .because "sink closed" else .because "flush failed"

variable {style : Style} {limit badFlush : Option Nat} {told : List Event} {event : Event}

theorem notify_eq (style : Style) (sink : Sink) (event : Event) :
    style.reporter.notify sink event =
      sink.put (Utf8.encode (style.render event)) event.flushes := rfl

theorem notify_of_unbroken (unbroken : style.breaksAt limit badFlush told event = false) :
    style.reporter.notify (style.filled limit badFlush told) event =
      (style.filled limit badFlush (told ++ [event]), none) := by
  simp only [breaksAt, Bool.or_eq_false_iff, Bool.and_eq_false_iff, written_append,
    written_singleton, List.length_append] at unbroken
  obtain ⟨within, flushesWell⟩ := unbroken
  have put := @Sink.put_of_within (style.filled limit badFlush told) _ event.flushes within
  rw [notify_eq, put]
  cases flushes : event.flushes with
  | false => simp [filled, flushes]
  | true =>
    have good : badFlush ≠ some (told.countP Event.flushes + 1) := by
      simpa [flushes] using flushesWell
    simp [filled, flushes, good]

/-- A step over the limit: its bytes are kept up to the limit, and nothing is flushed. -/
theorem notify_of_exceeds {most : Nat} (room : (style.written told).length ≤ most)
    (beyond : most < (style.written (told ++ [event])).length) :
    style.reporter.notify (style.filled (some most) badFlush told) event =
      ({ style.filled (some most) badFlush told with
          taken := (style.written (told ++ [event])).take most },
        some (.because "sink closed")) := by
  rw [written_append, written_singleton, List.length_append] at beyond
  have put := @Sink.put_of_exceeds (style.filled (some most) badFlush told) _ event.flushes most
    rfl room beyond
  rw [notify_eq, put, written_append, written_singleton, List.take_append,
    List.take_of_length_le room]
  rfl

/-- A step within the limit whose flush fails. -/
theorem notify_of_badFlush
    (within : Sink.exceeds limit (style.written (told ++ [event])).length = false)
    (flushes : event.flushes = true)
    (bad : badFlush = some ((told ++ [event]).countP Event.flushes)) :
    style.reporter.notify (style.filled limit badFlush told) event =
      (style.filled limit badFlush (told ++ [event]), some (.because "flush failed")) := by
  rw [written_append, written_singleton, List.length_append] at within
  have put := @Sink.put_of_within (style.filled limit badFlush told) _ event.flushes within
  rw [notify_eq, put, bad]
  simp [filled, flushes]

theorem notify_of_broken (room : Sink.exceeds limit (style.written told).length = false)
    (broken : style.breaksAt limit badFlush told event = true) :
    ∃ sink, style.reporter.notify (style.filled limit badFlush told) event =
        (sink, some (causeOf limit (style.written (told ++ [event])).length)) ∧
      sink.taken = (style.written (told ++ [event])).take
        (kept limit (style.written (told ++ [event])).length) := by
  cases beyond : Sink.exceeds limit (style.written (told ++ [event])).length with
  | true =>
    cases limit with
    | none => cases beyond
    | some most =>
      rw [causeOf, beyond]
      simp only [Sink.exceeds, decide_eq_true_eq, decide_eq_false_iff_not, Nat.not_lt] at beyond room
      refine ⟨_, notify_of_exceeds room beyond, ?_⟩
      rw [kept, Nat.min_eq_left (Nat.le_of_lt beyond)]
  | false =>
    rw [causeOf, beyond]
    simp only [breaksAt, beyond, Bool.false_or, Bool.and_eq_true, beq_iff_eq] at broken
    refine ⟨_, notify_of_badFlush beyond broken.1 broken.2, ?_⟩
    cases limit with
    | none => exact (List.take_length ..).symm
    | some most =>
      simp only [Sink.exceeds, decide_eq_false_iff_not, Nat.not_lt] at beyond
      rw [kept, Nat.min_eq_right beyond, List.take_length]
      rfl

/-- Steps that reach no fault are taken as by a sink without faults: every byte is kept, and
    the flushes are counted. -/
theorem accepts_of_spares {effects : List Effect} (spares : style.Spares limit badFlush effects) :
    style.reporter.Accepts { limit, badFlush } (Effect.events effects) ∧
      Sink.exceeds limit (style.written (Effect.events effects)).length = false ∧
      style.reporter.stateAfter { limit, badFlush } (Effect.events effects) =
        style.filled limit badFlush (Effect.events effects) := by
  -- By induction on the last effect: the steps before it leave the sink as described.
  induction effects using List.reverseRecOn with
  | nil =>
    refine ⟨trivial, ?_, rfl⟩
    cases limit <;> simp [Sink.exceeds]
  | append_singleton effects last ih =>
    obtain ⟨accepts, within, fills⟩ := ih spares.init
    cases last with
    | invoked fixture | logged event => simpa using ⟨accepts, within, fills⟩
    | notified event fault =>
      have unbroken := spares effects event fault [] rfl
      have taken := notify_of_unbroken unbroken
      rw [breaksAt, Bool.or_eq_false_iff] at unbroken
      simp only [Effect.events_append, Effect.events_notified, Effect.events_nil]
      refine ⟨?_, unbroken.1, ?_⟩
      · rw [Reporter.accepts_append, fills]
        exact ⟨accepts, by rw [taken], trivial⟩
      · rw [Reporter.stateAfter_append, fills, Reporter.stateAfter_cons, taken]
        rfl

end Style

namespace Plan

section

variable {plan : Plan Sink} {style : Style} {limit badFlush : Option Nat}

/-- A run none of whose steps reaches a fault follows its script. -/
theorem run_of_spares (reports : plan.reporter = style.reporter)
    (spares : style.Spares limit badFlush plan.script) :
    plan.run { limit, badFlush } =
      ⟨plan.script, style.filled limit badFlush (Effect.events plan.script),
        plan.verdictOnRun⟩ := by
  obtain ⟨accepts, -, fills⟩ := Style.accepts_of_spares spares
  rw [plan.run_of_accepts (by rwa [reports]), reports, fills]

/-- A run ends with the first step that reaches a fault. -/
theorem run_of_breaksAt (reports : plan.reporter = style.reporter) {before after : List Effect}
    {event : Event} {fault : Option IoFault}
    (split : plan.script = before ++ .notified event fault :: after)
    (spares : style.Spares limit badFlush before)
    (breaks : style.breaksAt limit badFlush (Effect.events before) event = true) :
    let through := style.written (Effect.events before ++ [event])
    let cause := Style.causeOf limit through.length
    ∃ sink, plan.run { limit, badFlush } =
        ⟨before ++ [.notified event (some cause)], sink, .error (.cannotReport cause)⟩ ∧
      sink.taken = through.take (Style.kept limit through.length) := by
  intro through cause
  obtain ⟨accepts, room, fills⟩ := Style.accepts_of_spares spares
  obtain ⟨sink, told, taken⟩ := Style.notify_of_broken room breaks
  have faultless : Effect.Faultless before := fun other reason failed =>
    plan.script_faultless other reason (split ▸ List.mem_append_left _ failed)
  refine ⟨sink, ?_, taken⟩
  rw [run_eq_relay, reports, split, Reporter.relay_append _ _ (),
    Reporter.relay_of_accepts _ faultless accepts, fills]
  simp only [Reporter.relay, told, Trace.after]
  rfl

/-- If a report on a fixture failed, this fixture was invoked last. -/
theorem getLast?_invocations_of_unreported {σ : Type} {plan : Plan σ} {state : σ}
    {before : List Effect} {judgement : Judgement} {cause : IoFault}
    (ends : (plan.run state).effects = before ++ [.notified (.judged judgement) (some cause)]) :
    (Effect.invocations (plan.run state).effects).getLast? = some judgement.fixture := by
  have reported : (Effect.reports (Effect.calls (plan.run state).effects))[
      (Effect.reports before).length]? = some (judgement, some cause) := by
    rw [Effect.reports_calls, ends]
    simp
  obtain ⟨position, invoked⟩ := (plan.run_ends state).report_failed reported
  rw [Effect.invocations_calls] at invoked
  rw [invoked, List.getLast?_take]
  simp [position]

end

/-- A run over a sink that takes a limited number of bytes, or one of whose flushes fails.
    However a step of the report cuts its bytes into writes, it does the same to the sink.
    Over a sink without faults no step fails, every byte is kept, and each step flushes once
    or, at the start, not at all.  If none of these steps reaches a fault, the run is the same
    over the broken sink; otherwise it goes the same way up to the first that does, and ends
    with its failure. -/
theorem run_over_brokenSink (fixtures : List Fixture) (invoke : Fixture → Observation)
    (expect : Convention) (failFast : Bool) (elapsed : Duration) (style : Style)
    (limit badFlush : Option Nat) :
    let plan : Plan Sink := ⟨fixtures, invoke, expect, style.reporter, failFast, elapsed⟩
    let sound := plan.run {}
    let broken := plan.run { limit, badFlush }
    (∀ sink event pieces, pieces.flatten = Utf8.encode (style.render event) →
      sink.putEach pieces event.flushes = style.reporter.notify sink event) ∧
    Effect.Faultless sound.effects ∧
    sound.state = { taken := style.written (Effect.events sound.effects)
                    flushes := (Effect.events sound.effects).countP Event.flushes } ∧
    (style.Spares limit badFlush sound.effects ∧
        broken.effects = sound.effects ∧ broken.result = sound.result ∧
        broken.state.taken = sound.state.taken ∧ broken.state.flushes = sound.state.flushes ∨
      ∃ before event fault after, sound.effects = before ++ .notified event fault :: after ∧
        style.Spares limit badFlush before ∧
        style.breaksAt limit badFlush (Effect.events before) event = true ∧
        let through := (style.written (Effect.events before ++ [event])).length
        let cause := Style.causeOf limit through
        broken.effects = before ++ [.notified event (some cause)] ∧
        broken.result = .error (.cannotReport cause) ∧
        broken.state.taken = sound.state.taken.take (Style.kept limit through) ∧
        Effect.invocations broken.effects = Effect.invocations before ∧
        ∀ judgement, event = .judged judgement →
          (Effect.invocations broken.effects).getLast? = some judgement.fixture) := by
  intro plan sound broken
  have sparesAll : style.Spares none none plan.script := by
    intro before event fault after _
    simp [Style.breaksAt, Sink.exceeds]
  have soundRuns : sound = _ := run_of_spares rfl sparesAll
  rw [soundRuns]
  refine ⟨?_, plan.script_faultless, rfl, ?_⟩
  · intro sink event pieces whole
    rw [Sink.putEach_eq_put, whole, Style.notify_eq]
  rcases Style.spares_or_breaks style limit badFlush plan.script with
    spares | ⟨before, event, fault, after, split, spares, breaks⟩
  · have brokenRuns : broken = _ := run_of_spares rfl spares
    rw [brokenRuns]
    exact .inl ⟨spares, rfl, rfl, rfl, rfl⟩
  · obtain ⟨sink, brokenRuns, taken⟩ := run_of_breaksAt rfl split spares breaks
    refine .inr ⟨before, event, fault, after, split, spares, breaks, ?_⟩
    have brokenEffects := congrArg Trace.effects brokenRuns
    refine ⟨brokenEffects, congrArg Trace.result brokenRuns, ?_, ?_, ?_⟩
    · have all : style.written (Effect.events plan.script) =
          style.written (Effect.events before ++ [event]) ++
            style.written (Effect.events after) := by
        rw [split, ← Style.written_append]
        simp
      have brokenTaken : broken.state.taken = sink.taken :=
        congrArg (fun trace => trace.state.taken) brokenRuns
      rw [brokenTaken, taken]
      show _ = (style.written (Effect.events plan.script)).take _
      rw [all, List.take_append_of_le_length (Style.kept_le _ _)]
    · rw [brokenEffects]
      simp
    · rintro judgement rfl
      exact getLast?_invocations_of_unreported brokenEffects

end Plan

end Conformance
