import Conformance.Proofs.Subject.Interleaving
import Conformance.Subject.TimedWait

/-! # What turns can do to a child and its watcher

`Step` says in one rule for each case what a turn can do, and `step_eq_some_iff` that `step`
does just that.  Everything about interleavings is proved once for a step and carried along
`Reaches`, the interleavings built turn by turn.

* `Reaches.accounts`: what a watch tells about the turns that led to it.
* `Reaches.kill_met`: what a kill found.
* `left_of_stopped`: once the child is over, how many turns the watcher still needs at most.
* `wait_promptTurns`: what the watcher that loses no time comes to.
-/

namespace Conformance.TimedWait

variable {deadline : Nat} {turns : List Turn} {watch : Watch}

/-! ## Steps -/

/-- What a turn can do, and when. -/
inductive Step (deadline : Nat) : Watch → Turn → Watch → Prop
  | passes (clock span : Nat) (fate : Fate) (phase : Phase) :
      Step deadline ⟨clock, fate, phase⟩ (.passes span) ⟨clock + span, fate, phase⟩
  | ends (clock : Nat) (phase : Phase) (status : WaitStatus) :
      Step deadline ⟨clock, .running, phase⟩ (.ends status) ⟨clock, .ended status, phase⟩
  | found (clock : Nat) {fate : Fate} {status : WaitStatus}
      (reapable : fate.status? = some status) :
      Step deadline ⟨clock, fate, .polling⟩ .polls
        ⟨clock, fate, .done ⟨status, false, clock, false⟩⟩
  | missed (clock : Nat) :
      Step deadline ⟨clock, .running, .polling⟩ .polls ⟨clock, .running, .checking⟩
  | early {clock : Nat} (fate : Fate) (before : clock < deadline) :
      Step deadline ⟨clock, fate, .checking⟩ .checks ⟨clock, fate, .polling⟩
  | late {clock : Nat} (fate : Fate) (up : deadline ≤ clock) :
      Step deadline ⟨clock, fate, .checking⟩ .checks ⟨clock, fate, .killing⟩
  | kills (clock : Nat) {fate next : Fate} {answer : KillAnswer}
      (makes : fate.afterKill answer = some next) :
      Step deadline ⟨clock, fate, .killing⟩ (.kills answer) ⟨clock, next, .reaping answer⟩
  | reaps (clock : Nat) {fate : Fate} {status : WaitStatus} (answer : KillAnswer)
      (reapable : fate.status? = some status) :
      Step deadline ⟨clock, fate, .reaping answer⟩ .reaps
        ⟨clock, fate, .done ⟨status, endedByKill answer status, clock, true⟩⟩

theorem Fate.running_of_status? {fate : Fate} (running : fate.status? = none) :
    fate = .running := by
  cases fate with
  | running => rfl
  | ended status => cases running
  | killed => cases running

theorem Step.eq_some {turn : Turn} {next : Watch} (taken : Step deadline watch turn next) :
    step deadline watch turn = some next := by
  cases taken with
  | passes | ends | missed => rfl
  | found clock reapable => simp [step, reapable]
  | early fate before => simp [step, Nat.not_le.mpr before]
  | late fate up => simp [step, up]
  | kills clock makes => simp [step, makes]
  | reaps clock answer reapable => simp [step, reapable]

theorem Step.of_eq_some {turn : Turn} {next : Watch}
    (taken : step deadline watch turn = some next) : Step deadline watch turn next := by
  obtain ⟨clock, fate, phase⟩ := watch
  cases turn with
  | passes span =>
    cases taken
    exact .passes clock span fate phase
  | ends status =>
    simp only [step] at taken
    split at taken
    next =>
      cases taken
      exact .ends clock phase status
    next => cases taken
  | polls =>
    simp only [step] at taken
    split at taken
    next =>
      split at taken
      next status reapable =>
        cases taken
        exact .found clock reapable
      next running =>
        cases Fate.running_of_status? running
        cases taken
        exact .missed clock
    next => cases taken
  | checks =>
    simp only [step] at taken
    split at taken
    next =>
      cases taken
      by_cases up : deadline ≤ clock
      · rw [if_pos up]
        exact .late fate up
      · rw [if_neg up]
        exact .early fate (Nat.lt_of_not_le up)
    next => cases taken
  | kills answer =>
    simp only [step] at taken
    split at taken
    next makes =>
      cases taken
      exact .kills clock makes
    next => cases taken
  | reaps =>
    simp only [step] at taken
    split at taken
    next answer status reapable =>
      cases taken
      exact .reaps clock answer reapable
    next => cases taken

theorem step_eq_some_iff {turn : Turn} {next : Watch} :
    step deadline watch turn = some next ↔ Step deadline watch turn next :=
  ⟨Step.of_eq_some, Step.eq_some⟩

/-! ## Interleavings -/

theorem foldlM_cons_iff {turn : Turn} {more : List Turn} {next : Watch} :
    (turn :: more).foldlM (step deadline) watch = some next ↔
      ∃ middle, Step deadline watch turn middle ∧
        more.foldlM (step deadline) middle = some next := by
  simp only [Interleaving.foldlM_cons_iff, step_eq_some_iff]

/-- What every turn keeps, a list of turns keeps. -/
theorem foldlM_keeps {Holds : Watch → Prop} {more : List Turn} {next : Watch}
    (kept : ∀ {watch turn next}, Step deadline watch turn next → Holds watch → Holds next)
    (taken : more.foldlM (step deadline) watch = some next) (holds : Holds watch) :
    Holds next := by
  induction more generalizing watch with
  | nil =>
    cases taken
    exact holds
  | cons turn more ih =>
    obtain ⟨middle, first, rest⟩ := foldlM_cons_iff.mp taken
    exact ih rest (kept first holds)

/-- The turns can be taken in this order, and they lead to the watch. -/
inductive Reaches (deadline : Nat) : List Turn → Watch → Prop
  | start : Reaches deadline [] {}
  | next {turns : List Turn} {watch next : Watch} {turn : Turn}
      (reached : Reaches deadline turns watch) (taken : Step deadline watch turn next) :
      Reaches deadline (turns ++ [turn]) next

theorem Reaches.foldlM {next : Watch} (reached : Reaches deadline turns watch)
    (more : List Turn) (taken : more.foldlM (step deadline) watch = some next) :
    Reaches deadline (turns ++ more) next := by
  induction more generalizing turns watch with
  | nil =>
    cases taken
    simpa using reached
  | cons turn more ih =>
    obtain ⟨middle, first, rest⟩ := foldlM_cons_iff.mp taken
    simpa using ih (reached.next first) rest

theorem reaches_iff : Reaches deadline turns watch ↔ run deadline turns = some watch := by
  constructor
  · intro reached
    induction reached with
    | start => rfl
    | next _ taken ih =>
      exact Interleaving.foldlM_concat ih taken.eq_some
  · intro runs
    simpa using Reaches.start.foldlM turns runs

theorem Reaches.split {first second : List Turn}
    (reached : Reaches deadline (first ++ second) watch) :
    ∃ middle, Reaches deadline first middle ∧
      second.foldlM (step deadline) middle = some watch := by
  obtain ⟨middle, reaching, rest⟩ := Interleaving.foldlM_append_iff.mp (reaches_iff.mp reached)
  exact ⟨middle, reaches_iff.mpr reaching, rest⟩

/-! ## Accounts -/

/-- How the kills among the turns were answered, in order. -/
def killAnswers (turns : List Turn) : List KillAnswer :=
  turns.filterMap fun
    | .kills answer => some answer
    | _ => none

/-- What the phase of a watcher tells about the kills so far. -/
def PhaseAccounts (deadline : Nat) (answers : List KillAnswer) (watch : Watch) : Prop :=
  match watch.phase with
  | .polling | .checking => answers = []
  | .killing => answers = [] ∧ deadline ≤ watch.clock
  | .reaping answer => answers = [answer]
  | .done reaped =>
    watch.fate.status? = some reaped.status ∧
      (answers = [] ∧ reaped.timedOut = false ∧ reaped.killTried = false ∨
        ∃ answer, answers = [answer] ∧ reaped.killTried = true ∧
          reaped.timedOut = endedByKill answer reaped.status)

/-- What a watch tells about the turns that led to it: whether the child ended by itself, and
    what came of the kill. -/
structure Accounts (deadline : Nat) (turns : List Turn) (watch : Watch) : Prop where
  ended : ∀ status, .ends status ∈ turns ↔ watch.fate = .ended status
  phase : PhaseAccounts deadline (killAnswers turns) watch

theorem Step.accounts {turn : Turn} {next : Watch} (taken : Step deadline watch turn next)
    (accounts : Accounts deadline turns watch) : Accounts deadline (turns ++ [turn]) next := by
  obtain ⟨ended, phase⟩ := accounts
  cases taken with
  | passes clock span fate phase' =>
    refine ⟨by simpa using ended, ?_⟩
    cases phase' with
    | killing =>
      obtain ⟨unanswered, up⟩ := phase
      exact ⟨by simpa [killAnswers] using unanswered, Nat.le_trans up (Nat.le_add_right ..)⟩
    | polling | checking | reaping answer | done reaped =>
      simpa [killAnswers, PhaseAccounts] using phase
  | ends clock phase' status =>
    constructor
    · intro other
      have unended : .ends other ∉ turns := fun member => by cases (ended other).mp member
      simp [unended, eq_comm]
    · cases phase' with
      | done reaped =>
        obtain ⟨impossible, -⟩ := phase
        cases impossible
      | polling | checking | killing | reaping answer =>
        simpa [killAnswers, PhaseAccounts] using phase
  | found clock reapable =>
    refine ⟨by simpa using ended, reapable, .inl ⟨?_, rfl, rfl⟩⟩
    simpa [killAnswers, PhaseAccounts] using phase
  | missed clock =>
    exact ⟨by simpa using ended, by simpa [killAnswers, PhaseAccounts] using phase⟩
  | early fate before =>
    exact ⟨by simpa using ended, by simpa [killAnswers, PhaseAccounts] using phase⟩
  | late fate up =>
    exact ⟨by simpa using ended, by simpa [killAnswers, PhaseAccounts] using phase, up⟩
  | @kills clock fate next answer makes =>
    obtain ⟨unanswered, -⟩ := phase
    constructor
    · intro status
      -- A kill changes only what became of a running child, which did not end by itself.
      have same : fate = .ended status ↔ next = .ended status := by
        cases fate <;> cases answer <;> cases makes <;> simp
      simpa [← same] using ended status
    · have answered : killAnswers (turns ++ [.kills answer]) = [answer] := by
        simpa [killAnswers] using unanswered
      exact answered
  | reaps clock answer reapable =>
    refine ⟨by simpa using ended, reapable, .inr ⟨answer, ?_, rfl, rfl⟩⟩
    simpa [killAnswers, PhaseAccounts] using phase

theorem Reaches.accounts (reached : Reaches deadline turns watch) :
    Accounts deadline turns watch := by
  induction reached with
  | start => exact ⟨by simp, rfl⟩
  | next _ taken ih => exact taken.accounts ih

/-! ## Kills -/

/-- A kill among the turns that was answered so, and the child and watcher it met. -/
def KillMet (deadline : Nat) (turns : List Turn) (answer : KillAnswer) (met : Watch) : Prop :=
  ∃ before after, turns = before ++ .kills answer :: after ∧ run deadline before = some met

/-- The kill is what ended the child: it was sent while the child was running. -/
def KillEnds (deadline : Nat) (turns : List Turn) : Prop :=
  ∃ met, KillMet deadline turns .sent met ∧ met.fate = .running

theorem KillMet.concat {answer : KillAnswer} {met : Watch}
    (kill : KillMet deadline turns answer met) (turn : Turn) :
    KillMet deadline (turns ++ [turn]) answer met := by
  obtain ⟨before, after, rfl, reached⟩ := kill
  exact ⟨before, after ++ [turn], by simp, reached⟩

theorem KillMet.answered {answer : KillAnswer} {met : Watch}
    (kill : KillMet deadline turns answer met) : answer ∈ killAnswers turns := by
  obtain ⟨before, after, rfl, -⟩ := kill
  simp [killAnswers]

/-- A kill is tried no earlier than the deadline. -/
theorem Reaches.kill_met (reached : Reaches deadline turns watch) {answer : KillAnswer}
    (answered : answer ∈ killAnswers turns) :
    ∃ met, KillMet deadline turns answer met ∧ deadline ≤ met.clock := by
  induction reached with
  | start => cases answered
  | @next turns watch next turn reached taken ih =>
    rw [killAnswers, List.filterMap_append, List.mem_append] at answered
    rcases answered with earlier | now
    · obtain ⟨met, kill, up⟩ := ih earlier
      exact ⟨met, kill.concat turn, up⟩
    · -- The phase before a kill says that the deadline is up.
      cases taken with
      | @kills clock fate next other makes =>
        obtain rfl : answer = other := by simpa using now
        obtain ⟨-, up⟩ := reached.accounts.phase
        exact ⟨_, ⟨turns, [], rfl, reaches_iff.mp reached⟩, up⟩
      | passes | ends | found | missed | early | late | reaps => simp at now

theorem Reaches.killEnds_of_killed (reached : Reaches deadline turns watch)
    (killed : watch.fate = .killed) : KillEnds deadline turns := by
  induction reached with
  | start => cases killed
  | @next turns watch next turn reached taken ih =>
    have earlier (before : watch.fate = .killed) : KillEnds deadline (turns ++ [turn]) := by
      obtain ⟨met, kill, running⟩ := ih before
      exact ⟨met, kill.concat turn, running⟩
    cases taken with
    | passes | found | missed | early | late | reaps => exact earlier killed
    | ends => cases killed
    | @kills clock fate next answer makes =>
      cases fate with
      | running =>
        cases answer with
        | sent => exact ⟨_, ⟨turns, [], rfl, reaches_iff.mp reached⟩, rfl⟩
        | gone => cases makes
        | denied =>
          cases makes
          cases killed
      | ended status =>
        cases makes
        cases killed
      | killed => exact earlier rfl

theorem Step.keeps_killed {turn : Turn} {next : Watch} (taken : Step deadline watch turn next)
    (killed : watch.fate = .killed) : next.fate = .killed := by
  cases taken with
  | passes | found | missed | early | late | reaps => exact killed
  | ends => cases killed
  | kills clock makes =>
    cases killed
    cases makes
    rfl

theorem Reaches.killed_of_killEnds (reached : Reaches deadline turns watch)
    (killEnds : KillEnds deadline turns) : watch.fate = .killed := by
  obtain ⟨met, ⟨before, after, rfl, reaching⟩, running⟩ := killEnds
  obtain ⟨middle, reachedMiddle, rest⟩ := reached.split
  -- The same turns lead only to one watch, so the one that the kill met is the one at the cut.
  obtain rfl : met = middle := by
    rw [reaches_iff.mp reachedMiddle] at reaching
    exact (Option.some.inj reaching).symm
  obtain ⟨hit, taken, rest⟩ := foldlM_cons_iff.mp rest
  refine foldlM_keeps Step.keeps_killed rest ?_
  cases taken with
  | kills clock makes =>
    cases running
    cases makes
    rfl

theorem Reaches.killed_iff (reached : Reaches deadline turns watch) :
    watch.fate = .killed ↔ KillEnds deadline turns :=
  ⟨reached.killEnds_of_killed, reached.killed_of_killEnds⟩

/-! ## Progress -/

/-- Whether a turn is one of the watcher's. -/
def Turn.isWatchers : Turn → Bool
  | .polls | .checks | .kills _ | .reaps => true
  | .passes _ | .ends _ => false

/-- How many turns the watcher still needs at most once the child is over. -/
def Phase.left : Phase → Nat
  | .polling => 1
  | .checking => 3
  | .killing => 2
  | .reaping _ => 1
  | .done _ => 0

theorem Phase.left_le (phase : Phase) : phase.left ≤ 3 := by
  cases phase <;> simp [left]

theorem result?_of_left (finished : watch.phase.left = 0) :
    ∃ reaped, watch.result? = some reaped := by
  obtain ⟨clock, fate, phase⟩ := watch
  cases phase with
  | polling | checking | killing | reaping answer => cases finished
  | done reaped => exact ⟨reaped, rfl⟩

theorem Step.left {turn : Turn} {next : Watch} (taken : Step deadline watch turn next)
    (stopped : watch.fate ≠ .running) :
    next.fate ≠ .running ∧
      next.phase.left + (if turn.isWatchers then 1 else 0) ≤ watch.phase.left := by
  cases taken with
  | passes => exact ⟨stopped, Nat.le_refl _⟩
  | ends => exact absurd rfl stopped
  | missed => exact absurd rfl stopped
  | found | early | late | reaps => exact ⟨stopped, by simp [Phase.left, Turn.isWatchers]⟩
  | @kills clock fate next answer makes =>
    refine ⟨?_, by simp [Phase.left, Turn.isWatchers]⟩
    cases fate with
    | running => exact absurd rfl stopped
    | ended | killed =>
      cases makes
      exact stopped

/-- Once the child is over, each turn of the watcher brings it nearer to its result. -/
theorem left_of_stopped {more : List Turn} {next : Watch} (stopped : watch.fate ≠ .running)
    (taken : more.foldlM (step deadline) watch = some next) :
    next.phase.left + more.countP Turn.isWatchers ≤ watch.phase.left := by
  induction more generalizing watch with
  | nil =>
    cases taken
    exact Nat.le_refl _
  | cons turn more ih =>
    obtain ⟨middle, first, rest⟩ := foldlM_cons_iff.mp taken
    obtain ⟨stillStopped, nearer⟩ := first.left stopped
    have rests := ih stillStopped rest
    rw [List.countP_cons]
    omega

/-- Once the child is over, a watcher without a result can take a turn. -/
theorem exists_turn (stopped : watch.fate ≠ .running) (unfinished : watch.result? = none) :
    ∃ turn next, turn.isWatchers = true ∧ step deadline watch turn = some next := by
  obtain ⟨clock, fate, phase⟩ := watch
  obtain ⟨status, reapable⟩ : ∃ status, fate.status? = some status := by
    cases fate with
    | running => exact absurd rfl stopped
    | ended status => exact ⟨status, rfl⟩
    | killed => exact ⟨_, rfl⟩
  cases phase with
  | polling => exact ⟨.polls, _, rfl, (Step.found clock reapable).eq_some⟩
  | checking => exact ⟨.checks, _, rfl, rfl⟩
  | killing =>
    have makes : fate.afterKill .sent = some fate := by
      cases fate with
      | running => exact absurd rfl stopped
      | ended | killed => rfl
    exact ⟨.kills .sent, _, rfl, (Step.kills clock makes).eq_some⟩
  | reaping answer => exact ⟨.reaps, _, rfl, (Step.reaps clock answer reapable).eq_some⟩
  | done reaped => cases unfinished

/-! ## The prompt watcher -/

theorem foldlM_idleRounds {clock rounds : Nat}
    (early : ∀ round < rounds, clock + round * pollEvery < deadline) :
    (List.replicate rounds [Turn.polls, .checks, .passes pollEvery]).flatten.foldlM
        (step deadline) ⟨clock, .running, .polling⟩ =
      some ⟨clock + rounds * pollEvery, .running, .polling⟩ := by
  induction rounds generalizing clock with
  | zero => simp
  | succ rounds ih =>
    have now : ¬ deadline ≤ clock := by
      have first := early 0 (Nat.succ_pos _)
      omega
    have later : ∀ round < rounds, clock + pollEvery + round * pollEvery < deadline := by
      intro round before
      have next := early (round + 1) (Nat.succ_lt_succ before)
      rw [Nat.succ_mul] at next
      omega
    have moved : clock + pollEvery + rounds * pollEvery = clock + (rounds + 1) * pollEvery := by
      rw [Nat.succ_mul]
      omega
    have round : [Turn.polls, .checks, .passes pollEvery].foldlM (step deadline)
        ⟨clock, .running, .polling⟩ = some ⟨clock + pollEvery, .running, .polling⟩ := by
      simp [step, Fate.status?, now]
    rw [List.replicate_succ, List.flatten_cons, List.foldlM_append, round, ← moved]
    exact ih later

theorem foldlM_over (clock : Nat) (status : WaitStatus) :
    [Turn.ends status, .polls].foldlM (step deadline) ⟨clock, .running, .polling⟩ =
      some ⟨clock, .ended status, .done ⟨status, false, clock, false⟩⟩ := by
  simp [step, Fate.status?]

theorem foldlM_up {clock : Nat} (up : deadline ≤ clock) :
    [Turn.polls, .checks, .kills .sent, .reaps].foldlM (step deadline)
        ⟨clock, .running, .polling⟩ =
      some ⟨clock, .killed, .done ⟨.ofSignal killSignal, true, clock, true⟩⟩ := by
  have byKill : endedByKill .sent (.ofSignal killSignal) = true := by decide
  simp [step, Fate.status?, Fate.afterKill, up, byKill]

theorem isOver_of_endsAt (status : WaitStatus) {last moment : Nat} :
    (Child.mk status (some last)).isOver moment = true ↔ last ≤ moment := decide_eq_true_iff

/-- The polls of a watcher that loses no time go on past the end of the child or the
    deadline. -/
theorem isOver_or_up (child : Child) (deadline : Nat) :
    child.isOver (idleRounds child deadline * pollEvery) = true ∨
      deadline ≤ idleRounds child deadline * pollEvery := by
  obtain ⟨status, endsAt⟩ := child
  cases endsAt with
  | none =>
    simp only [idleRounds, pollEvery]
    omega
  | some last =>
    rw [isOver_of_endsAt]
    simp only [idleRounds, pollEvery]
    omega

theorem idleRounds_early (child : Child) (deadline : Nat) :
    ∀ round < idleRounds child deadline, round * pollEvery < deadline := by
  obtain ⟨status, endsAt⟩ := child
  intro round before
  cases endsAt with
  | none | some last =>
    simp only [idleRounds, pollEvery] at before ⊢
    omega

/-- A watcher that loses no time gets a result at its first poll past the end of the child or
    the deadline, and only kills a child that does not end by itself before. -/
theorem wait_promptTurns (child : Child) (deadline : Nat) :
    wait deadline (promptTurns child deadline) =
      some (if child.isOver (idleRounds child deadline * pollEvery)
        then ⟨child.status, false, idleRounds child deadline * pollEvery, false⟩
        else ⟨.ofSignal killSignal, true, idleRounds child deadline * pollEvery, true⟩) := by
  have idle := @foldlM_idleRounds deadline 0 (idleRounds child deadline)
    (by simpa using idleRounds_early child deadline)
  rw [Nat.zero_add] at idle
  have passable := isOver_or_up child deadline
  rw [wait, run, promptTurns, List.foldlM_append, idle]
  generalize idleRounds child deadline * pollEvery = moment at passable
  cases isOver : child.isOver moment with
  | true =>
    rw [if_pos rfl, if_pos rfl, Option.bind_eq_bind, Option.bind_some, foldlM_over]
    rfl
  | false =>
    have up : deadline ≤ moment := by simpa [isOver] using passable
    rw [if_neg Bool.false_ne_true, if_neg Bool.false_ne_true, Option.bind_eq_bind,
      Option.bind_some, foldlM_up up]
    rfl

end Conformance.TimedWait
