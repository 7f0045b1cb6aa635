import Conformance.Proofs.Subject.Turns
import Conformance.Subject.Invoke

/-! # Who ended the child

The watcher tells only afterwards, from the answer to its kill and the status it reaped,
whether the kill is what ended the child.  A child that exits with a code is never taken for
killed, however its end falls between the last poll and the kill.  A child that a signal of
its own ends there is: its status looks like that of a killed one.

* `Reaches.timedOut_iff`: what the mark of a timeout rests on.
* `exitCode_decides`: an exit code is judged as if there were no timeout.
* `Reaches.mark_iff`: when the mark is right, and when it is not.
-/

namespace Conformance

theorem WaitStatus.signal_of_exitCode {status : WaitStatus} {code : Int}
    (exits : status.exitCode = some code) : status.signal = none := by
  rw [exitCode] at exits
  rw [signal]
  split at exits
  next ending => rw [ending]
  next => cases exits

namespace Invoke

variable {performance : Performance} {fixture : Fixture} {timeout : Duration}
  {reaped : TimedWait.Reaped}

@[simp] theorem exitCode_collect :
    (collect performance fixture timeout reaped).value.exitCode = reaped.status.exitCode := rfl

@[simp] theorem signal_collect :
    (collect performance fixture timeout reaped).value.signal = reaped.status.signal := rfl

@[simp] theorem timedOut_collect :
    (collect performance fixture timeout reaped).value.timedOut = reaped.timedOut := rfl

/-- What is observed within a timeout is the result of one interleaving. -/
theorem observeWithin_eq_collect (timeout : Duration) (performance : Performance)
    (fixture : Fixture) :
    ∃ turns reaped, TimedWait.wait timeout.millis turns = some reaped ∧
      observeWithin timeout performance fixture = collect performance fixture timeout reaped := by
  have waited := TimedWait.wait_promptTurns performance.child timeout.millis
  refine ⟨_, _, waited, ?_⟩
  rw [observeWithin, waited]

end Invoke

namespace TimedWait

variable {deadline : Nat} {turns : List Turn} {watch : Watch} {reaped : Reaped}

/-! ## What a result rests on -/

theorem endedByKill_iff {answer : KillAnswer} {status : WaitStatus} :
    endedByKill answer status = true ↔ answer ≠ .gone ∧ status.exitCode = none := by
  simp [endedByKill]

theorem Reaches.done (reached : Reaches deadline turns watch)
    (result : watch.result? = some reaped) :
    watch.fate.status? = some reaped.status ∧
      (killAnswers turns = [] ∧ reaped.timedOut = false ∧ reaped.killTried = false ∨
        ∃ answer, killAnswers turns = [answer] ∧ reaped.killTried = true ∧
          reaped.timedOut = endedByKill answer reaped.status) := by
  have accounted := reached.accounts.phase
  obtain ⟨clock, fate, phase⟩ := watch
  cases phase with
  | polling | checking | killing | reaping answer => cases result
  | done other =>
    cases result
    exact accounted

/-- A child that ends by itself is reaped with its own status. -/
theorem Reaches.status_of_ends (reached : Reaches deadline turns watch)
    (result : watch.result? = some reaped) {status : WaitStatus}
    (ends : .ends status ∈ turns) : reaped.status = status := by
  obtain ⟨known, -⟩ := reached.done result
  rw [(reached.accounts.ended status).mp ends] at known
  exact (Option.some.inj known).symm

theorem Reaches.killTried_iff (reached : Reaches deadline turns watch)
    (result : watch.result? = some reaped) :
    reaped.killTried = true ↔ ∃ answer, answer ∈ killAnswers turns := by
  obtain ⟨-, ⟨unanswered, -, untried⟩ | ⟨answer, answered, tried, -⟩⟩ := reached.done result
  · simp [unanswered, untried]
  · simp [answered, tried]

theorem Reaches.timedOut_iff (reached : Reaches deadline turns watch)
    (result : watch.result? = some reaped) :
    reaped.timedOut = true ↔
      (∃ answer ∈ killAnswers turns, answer ≠ .gone) ∧ reaped.status.exitCode = none := by
  obtain ⟨-, ⟨unanswered, unmarked, -⟩ | ⟨answer, answered, -, marked⟩⟩ := reached.done result
  · simp [unanswered, unmarked]
  · rw [marked, endedByKill_iff, answered]
    simp

/-! ## Exit codes -/

/-- What is made of a subject that exited with a code if the code decides: the same as if
    nobody had watched the clock. -/
structure DecidedByCode (performance : Performance) (code : Int) (invocation : Invocation) :
    Prop where
  exitCode : invocation.exitCode = some code
  signal : invocation.signal = none
  timedOut : invocation.timedOut = false
  verdict : ∀ expected,
    invocation.verdict expected = (Invoke.observe performance).value.verdict expected

theorem Reaches.decidedByCode (reached : Reaches deadline turns watch)
    (result : watch.result? = some reaped) {performance : Performance} {code : Int}
    (ends : .ends performance.child.status ∈ turns)
    (exits : performance.child.status.exitCode = some code) (fixture : Fixture)
    (timeout : Duration) :
    DecidedByCode performance code
      (Invoke.collect performance fixture timeout reaped).value := by
  have own := reached.status_of_ends result ends
  have unmarked : reaped.timedOut = false := by
    rw [Bool.eq_false_iff, Ne, reached.timedOut_iff result, own, exits]
    simp
  refine ⟨?_, ?_, unmarked, ?_⟩
  · rw [Invoke.exitCode_collect, own, exits]
  · rw [Invoke.signal_collect, own, WaitStatus.signal_of_exitCode exits]
  · intro expected
    rw [Invocation.verdict, Invoke.timedOut_collect, unmarked, Invoke.exitCode_collect, own]
    rfl

/-- Three turns after the end of its child, a watcher has its result. -/
theorem Reaches.result_of_three (reached : Reaches deadline turns watch) {status : WaitStatus}
    {before after : List Turn} (cut : turns = before ++ .ends status :: after)
    (three : 3 ≤ after.countP Turn.isWatchers) : ∃ reaped, watch.result? = some reaped := by
  -- At worst the child ends right after a poll: the check, the kill and the reaping are left.
  subst cut
  obtain ⟨middle, -, rest⟩ := reached.split
  obtain ⟨ended, ending, rest⟩ := foldlM_cons_iff.mp rest
  cases ending with
  | ends clock phase status =>
    have nearer : watch.phase.left + after.countP Turn.isWatchers ≤ phase.left :=
      left_of_stopped (by simp) rest
    have most := phase.left_le
    exact result?_of_left (by omega)

/-- Whichever way a child, its watcher and the clock interleave, a child that ends by itself
    with an exit code is judged by it, and the watcher gets to its result: it is never stuck,
    and three turns after the end are enough.  A result is marked as a timeout only if it has no
    exit code and a kill was tried, no earlier than the deadline.  What is observed within a
    timeout is the result of one such interleaving. -/
theorem exitCode_decides (runs : run deadline turns = some watch) (performance : Performance)
    (fixture : Fixture) (timeout : Duration) :
    (∀ code, .ends performance.child.status ∈ turns →
      performance.child.status.exitCode = some code →
        (∀ reaped, watch.result? = some reaped →
          DecidedByCode performance code
            (Invoke.collect performance fixture timeout reaped).value) ∧
        (watch.result? = none →
          ∃ turn next, turn.isWatchers = true ∧ step deadline watch turn = some next) ∧
        ∀ before after, turns = before ++ .ends performance.child.status :: after →
          3 ≤ after.countP Turn.isWatchers → ∃ reaped, watch.result? = some reaped) ∧
    (∀ reaped, watch.result? = some reaped →
      (Invoke.collect performance fixture timeout reaped).value.timedOut = true →
        (Invoke.collect performance fixture timeout reaped).value.exitCode = none ∧
          reaped.killTried = true ∧
          ∃ answer met, KillMet deadline turns answer met ∧ deadline ≤ met.clock) ∧
    ∃ prompt reaped, wait timeout.millis prompt = some reaped ∧
      Invoke.observeWithin timeout performance fixture =
        Invoke.collect performance fixture timeout reaped := by
  have reached := reaches_iff.mpr runs
  refine ⟨?_, ?_, Invoke.observeWithin_eq_collect timeout performance fixture⟩
  · intro code ends exits
    refine ⟨?_, ?_, ?_⟩
    · intro reaped result
      exact reached.decidedByCode result ends exits fixture timeout
    · intro unfinished
      have ended := (reached.accounts.ended _).mp ends
      exact exists_turn (by simp [ended]) unfinished
    · intro before after cut three
      exact reached.result_of_three cut three
  · intro reaped result marked
    obtain ⟨⟨answer, answered, -⟩, codeless⟩ := (reached.timedOut_iff result).mp marked
    obtain ⟨met, kill, up⟩ := reached.kill_met answered
    have tried := (reached.killTried_iff result).mpr ⟨answer, answered⟩
    exact ⟨codeless, tried, answer, met, kill, up⟩

/-- The child exits between the last poll and a kill that is sent all the same. -/
theorem lateExit_decided :
    let turns := [Turn.passes 10, .polls, .checks, .ends (.ofExit 3), .kills .sent, .reaps]
    let performance : Performance := ⟨[], [], 0, ⟨.ofExit 3, some 10⟩, 0⟩
    let reaped : Reaped := ⟨.ofExit 3, false, 10, true⟩
    run 10 turns = some ⟨10, .ended (.ofExit 3), .done reaped⟩ ∧
      .ends performance.child.status ∈ turns ∧
      performance.child.status.exitCode = some 3 ∧
      DecidedByCode performance 3
        (Invoke.collect performance ⟨"tests/late"⟩ (.ofMillis 10) reaped).value := by
  intro turns performance reaped
  have runs : run 10 turns = some ⟨10, .ended (.ofExit 3), .done reaped⟩ := by decide
  have ends : .ends performance.child.status ∈ turns := by decide
  have exits : performance.child.status.exitCode = some 3 := by decide
  have decided := exitCode_decides runs performance ⟨"tests/late"⟩ (.ofMillis 10)
  exact ⟨runs, ends, exits, (decided.1 3 ends exits).1 reaped rfl⟩

/-! ## Marks -/

/-- Some kill was not refused for the child being gone, and the child ended by itself without
    an exit code. -/
def CodelessBesideKill (turns : List Turn) : Prop :=
  (∃ answer ∈ killAnswers turns, answer ≠ .gone) ∧
    ∃ status, .ends status ∈ turns ∧ status.exitCode = none

theorem Reaches.timedOut_of_killEnds (reached : Reaches deadline turns watch)
    (result : watch.result? = some reaped) (killEnds : KillEnds deadline turns) :
    reaped.timedOut = true := by
  rw [reached.timedOut_iff result]
  constructor
  · obtain ⟨met, kill, -⟩ := killEnds
    exact ⟨.sent, kill.answered, by decide⟩
  · obtain ⟨known, -⟩ := reached.done result
    rw [reached.killed_iff.mpr killEnds] at known
    rw [← Option.some.inj known]
    decide

theorem Reaches.mark_iff (reached : Reaches deadline turns watch)
    (result : watch.result? = some reaped) :
    reaped.timedOut = true ↔ KillEnds deadline turns ∨ CodelessBesideKill turns := by
  constructor
  · intro marked
    obtain ⟨answered, codeless⟩ := (reached.timedOut_iff result).mp marked
    obtain ⟨known, -⟩ := reached.done result
    -- The child is over; without an exit code, either the kill or a signal of its own did it.
    cases fate : watch.fate with
    | running =>
      rw [fate] at known
      cases known
    | killed => exact .inl (reached.killed_iff.mp fate)
    | ended status =>
      rw [fate] at known
      cases known
      exact .inr ⟨answered, _, (reached.accounts.ended _).mpr fate, codeless⟩
  · rintro (killEnds | ⟨answered, status, ends, codeless⟩)
    · exact reached.timedOut_of_killEnds result killEnds
    · rw [reached.timedOut_iff result, reached.status_of_ends result ends]
      exact ⟨answered, codeless⟩

/-- A result is marked as a timeout if the kill is what ended the child, and also if the child
    ended by itself without an exit code and a kill was not refused for its being gone.  So
    among the children that end by themselves with an exit code or not at all, the mark tells
    those that the kill ended. -/
theorem timedOut_iff_killEnds_or_codeless (runs : run deadline turns = some watch)
    (result : watch.result? = some reaped) :
    (reaped.timedOut = true ↔ KillEnds deadline turns ∨ CodelessBesideKill turns) ∧
      ((∀ status, .ends status ∈ turns → status.exitCode ≠ none) →
        (reaped.timedOut = true ↔ KillEnds deadline turns)) := by
  have marks := (reaches_iff.mpr runs).mark_iff result
  refine ⟨marks, fun coded => ?_⟩
  have uncodeless : ¬ CodelessBesideKill turns := by
    rintro ⟨-, status, ends, codeless⟩
    exact coded status ends codeless
  rw [marks, or_iff_left uncodeless]

/-- A child that hangs is marked as timed out, since the kill ends it. -/
theorem hungChild_marked :
    let turns := [Turn.polls, .checks, .passes 10, .polls, .checks, .kills .sent, .reaps]
    let reaped : Reaped := ⟨.ofSignal killSignal, true, 10, true⟩
    wait 10 turns = some reaped ∧ reaped.timedOut = true ∧ KillEnds 10 turns := by
  intro turns reaped
  have runs : run 10 turns = some ⟨10, .killed, .done reaped⟩ := by decide
  have coded : ∀ status, .ends status ∈ turns → status.exitCode ≠ none := by simp [turns]
  have marks := (timedOut_iff_killEnds_or_codeless runs rfl).2 coded
  exact ⟨by decide, rfl, marks.mp rfl⟩

/-- A child that a signal of its own ends between the last poll and the kill is marked as timed
    out and judged so, though the kill did not end it. -/
theorem ownSignal_marked :
    let turns := [Turn.passes 10, .polls, .checks, .ends (.ofSignal 11), .kills .sent, .reaps]
    let reaped : Reaped := ⟨.ofSignal 11, true, 10, true⟩
    wait 10 turns = some reaped ∧ ¬ KillEnds 10 turns ∧
      ∀ performance fixture timeout expected,
        (Invoke.collect performance fixture timeout reaped).value.signal = some 11 ∧
          (Invoke.collect performance fixture timeout reaped).value.verdict expected =
            .timedOut := by
  intro turns reaped
  have runs : run 10 turns = some ⟨10, .ended (.ofSignal 11), .done reaped⟩ := by decide
  refine ⟨by decide, ?_, fun performance fixture timeout expected => ⟨?_, rfl⟩⟩
  · intro killEnds
    cases (reaches_iff.mpr runs).killed_of_killEnds killEnds
  · rw [Invoke.signal_collect]
    decide

end TimedWait

end Conformance
