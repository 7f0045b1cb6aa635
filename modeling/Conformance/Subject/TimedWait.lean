import Conformance.Invocation

/-! # Waiting with a timeout

A child process runs until it ends by itself or is killed.  Whoever watches it polls it: is
it over, and if not, is its time up?  Then it is killed and reaped.  The child can still end
by itself between the last poll and the kill, so the status it is reaped with decides
whether the kill is taken to be what ended it.

The clock, the child and its watcher take turns.  `step` says when each turn can be taken
and what it does; a list of turns is one interleaving of the three.
-/

namespace Conformance

/-- A child process that nobody kills: how it ends, and when, if ever. -/
structure Child where
  status : WaitStatus
  endsAt : Option Nat
deriving Repr, DecidableEq

/-- Whether a child has ended by itself at a moment. -/
def Child.isOver (child : Child) (moment : Nat) : Bool :=
  match child.endsAt with
  | some last => last ≤ moment
  | none => false

namespace TimedWait

/-! ## The child -/

/-- What became of a child that was not reaped yet. -/
inductive Fate where
  | running
  /-- It ended by itself. -/
  | ended (status : WaitStatus)
  /-- The kill ended it. -/
  | killed
deriving Repr, DecidableEq

/-- How a kill is answered. -/
inductive KillAnswer where
  | sent
  /-- Refused because the child is gone. -/
  | gone
  /-- Refused for any other reason. -/
  | denied
deriving Repr, DecidableEq

/-- The signal of a kill. -/
def killSignal : Nat := 9

namespace Fate

/-- The status a child can be reaped with, once it is over. -/
def status? : Fate → Option WaitStatus
  | .running => none
  | .ended status => some status
  | .killed => some (.ofSignal killSignal)

/-- What a kill makes of a child.  One that is over stays as it is, however the kill is
    answered; one that is running is not gone. -/
def afterKill : Fate → KillAnswer → Option Fate
  | .running, .sent => some .killed
  | .running, .gone => none
  | .running, .denied => some .running
  | fate, _ => some fate

end Fate

/-! ## The watcher -/

/-- What waiting for a child came to. -/
structure Reaped where
  status : WaitStatus
  /-- Whether the kill is taken to be what ended the child. -/
  timedOut : Bool
  /-- When the child was reaped. -/
  moment : Nat
  /-- Whether a kill was attempted. -/
  killTried : Bool
deriving Repr, DecidableEq

/-- What the watcher does next. -/
inductive Phase where
  /-- Ask whether the child is over. -/
  | polling
  /-- Ask whether the time of a child that was running is up. -/
  | checking
  | killing
  /-- Wait for the end of a child after a kill. -/
  | reaping (answer : KillAnswer)
  | done (reaped : Reaped)
deriving Repr, DecidableEq

/-- Whether a kill is taken to be what ended a child: it was not refused because the child
    was gone, and the child has no exit code. -/
def endedByKill (answer : KillAnswer) (status : WaitStatus) : Bool :=
  decide (answer ≠ .gone) && status.exitCode.isNone

/-! ## Turns -/

/-- A child and its watcher at a moment. -/
structure Watch where
  clock : Nat := 0
  fate : Fate := .running
  phase : Phase := .polling
deriving Repr, DecidableEq

/-- Something that happens next: time passes, the child ends by itself, or the watcher does
    what its phase says. -/
inductive Turn where
  | passes (span : Nat)
  | ends (status : WaitStatus)
  | polls
  | checks
  | kills (answer : KillAnswer)
  | reaps
deriving Repr, DecidableEq

/-- What a turn makes of a watch, if it can be taken. -/
def step (deadline : Nat) (watch : Watch) : Turn → Option Watch
  | .passes span => some { watch with clock := watch.clock + span }
  | .ends status =>
    match watch.fate with
    | .running => some { watch with fate := .ended status }
    | _ => none
  | .polls =>
    match watch.phase with
    | .polling =>
      match watch.fate.status? with
      | some status => some { watch with phase := .done ⟨status, false, watch.clock, false⟩ }
      | none => some { watch with phase := .checking }
    | _ => none
  | .checks =>
    match watch.phase with
    | .checking =>
      some { watch with phase := if deadline ≤ watch.clock then .killing else .polling }
    | _ => none
  | .kills answer =>
    match watch.phase, watch.fate.afterKill answer with
    | .killing, some fate => some { watch with fate, phase := .reaping answer }
    | _, _ => none
  | .reaps =>
    match watch.phase, watch.fate.status? with
    | .reaping answer, some status =>
      some { watch with phase := .done ⟨status, endedByKill answer status, watch.clock, true⟩ }
    | _, _ => none

/-- What turns make of a child that was just started, if they can be taken in this order. -/
def run (deadline : Nat) (turns : List Turn) : Option Watch := turns.foldlM (step deadline) {}

/-- The result of a watcher that is done. -/
def Watch.result? (watch : Watch) : Option Reaped :=
  match watch.phase with
  | .done reaped => some reaped
  | _ => none

/-- What waiting comes to if the turns are taken in this order. -/
def wait (deadline : Nat) (turns : List Turn) : Option Reaped :=
  (run deadline turns).bind Watch.result?

/-! ## A prompt watcher -/

/-- How many milliseconds pass between two polls. -/
def pollEvery : Nat := 10

/-- How many polls a watcher makes that find neither the child over nor its time up. -/
def idleRounds (child : Child) (deadline : Nat) : Nat :=
  let last :=
    match child.endsAt with
    | some moment => min moment deadline
    | none => deadline
  (last + (pollEvery - 1)) / pollEvery

/-- The turns of a watcher that loses no time: a poll at every interval, up to the first
    that finds the child or its time over. -/
def promptTurns (child : Child) (deadline : Nat) : List Turn :=
  let rounds := idleRounds child deadline
  (List.replicate rounds [.polls, .checks, .passes pollEvery]).flatten ++
    (if child.isOver (rounds * pollEvery) then [.ends child.status, .polls]
     else [.polls, .checks, .kills .sent, .reaps])

end TimedWait

end Conformance
