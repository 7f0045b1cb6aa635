import Conformance.Proofs.Json.Grammar
import Conformance.Proofs.Report.JsonLines
import Mathlib.Data.List.Nodup

/-! # The record of a fixture

What a machine readable report says of a fixture, and that any reader of JSON finds it: the line
of a judged fixture denotes one object by the rules of the grammar, each key stands in it once,
and its members are the identifier, the labels, the numbers and, unless the subject succeeded,
the texts it wrote.  So lines tell apart what their judgements show (`SameShown`).
-/

namespace Conformance

/-- The texts a report shows of a subject: both, unless it succeeded. -/
def Judgement.shownTexts (judgement : Judgement) : Option (String × String) :=
  if judgement.verdict.isSuccess then none
  else some (judgement.invocation.stdoutText, judgement.invocation.stderrText)

/-- Two judgements show the same of a fixture. -/
structure Judgement.SameShown (first second : Judgement) : Prop where
  id : first.fixture.id = second.fixture.id
  exitCode : first.invocation.exitCode = second.invocation.exitCode
  signal : first.invocation.signal = second.invocation.signal
  texts : first.shownTexts = second.shownTexts

namespace JsonLines

open Text (lineFeed)

/-- A number, or null for none. -/
def numberOrNull : Option Int → Json.Value
  | some n => .number n
  | none => .null

/-- What is said of a fixture, in no particular order. -/
def fixtureMembers (judgement : Judgement) : List (String × Json.Value) :=
  let invocation := judgement.invocation
  [("event", .text "fixture"),
   ("fixture", .text judgement.fixture.id),
   ("expected", .text judgement.expected.label),
   ("verdict", .text judgement.verdict.label),
   ("exit_code", numberOrNull invocation.exitCode),
   ("signal", numberOrNull invocation.signal),
   ("timed_out", .bool invocation.timedOut),
   ("duration_ms", .number (invocation.duration.millis % Nat.pow 2 64 : Nat))] ++
  if judgement.verdict.isSuccess then []
  else
    [("stdout", .text (Utf8.decodeLossy invocation.stdout)),
     ("stderr", .text (Utf8.decodeLossy invocation.stderr))]

theorem value_number? (n : Option Int) : (Json.Scalar.number? n).value = numberOrNull n := by
  cases n <;> rfl

theorem number?_injective {m n : Option Int}
    (same : Json.Scalar.number? m = Json.Scalar.number? n) : m = n := by
  cases m <;> cases n <;> cases same <;> rfl

theorem keys_fixtureRecord (judgement : Judgement) :
    ((Json.members (fixtureRecord judgement)).map Prod.fst).Nodup := by
  cases success : judgement.verdict.isSuccess <;> simp [fixtureRecord, success]

theorem keys_fixtureMembers (judgement : Judgement) :
    ((fixtureMembers judgement).map Prod.fst).Nodup := by
  cases success : judgement.verdict.isSuccess <;> simp [fixtureMembers, success]

theorem members_fixtureRecord (judgement : Judgement) :
    (Json.members (fixtureRecord judgement)).Perm (fixtureMembers judgement) := by
  -- No key stands twice in either, so it is enough that they have the same members.
  have written := (keys_fixtureRecord judgement).of_map Prod.fst
  have said := (keys_fixtureMembers judgement).of_map Prod.fst
  rw [List.perm_ext_iff_of_nodup written said]
  intro member
  cases success : judgement.verdict.isSuccess <;>
    simp only [fixtureRecord, fixtureMembers, success, value_number?, Duration.millisWord,
      Invocation.stdoutText, Invocation.stderrText, Rat.intCast_natCast, Json.members_cons,
      Json.members_nil, Json.Scalar.value_bool, Json.Scalar.value_number, Json.Scalar.value_text,
      List.cons_append, List.nil_append, List.mem_cons, List.not_mem_nil, if_true,
      Bool.false_eq_true, if_false] <;>
    grind

theorem lookup_shown (judgement : Judgement) :
    let record := fixtureRecord judgement
    record.lookup "exit_code" = some (.number? judgement.invocation.exitCode) ∧
      record.lookup "signal" = some (.number? judgement.invocation.signal) ∧
      record.lookup "stdout" = judgement.shownTexts.map (fun texts => .text texts.1) ∧
      record.lookup "stderr" = judgement.shownTexts.map (fun texts => .text texts.2) := by
  cases success : judgement.verdict.isSuccess <;>
    simp [fixtureRecord, Judgement.shownTexts, success, List.lookup_cons]

theorem sameShown_of_fixtureRecord {first second : Judgement}
    (same : fixtureRecord first = fixtureRecord second) : first.SameShown second := by
  obtain ⟨-, id, -⟩ := lookup_fixtureRecord first
  obtain ⟨-, id', -⟩ := lookup_fixtureRecord second
  obtain ⟨exitCode, signal, stdout, stderr⟩ := lookup_shown first
  obtain ⟨exitCode', signal', stdout', stderr'⟩ := lookup_shown second
  rw [same] at id exitCode signal stdout stderr
  rw [id', Option.some.injEq, Json.Scalar.text.injEq] at id
  rw [exitCode', Option.some.injEq] at exitCode
  rw [signal', Option.some.injEq] at signal
  rw [stdout'] at stdout
  rw [stderr'] at stderr
  refine ⟨id.symm, (number?_injective exitCode).symm, (number?_injective signal).symm, ?_⟩
  -- Either both show texts or neither does.
  cases texts : first.shownTexts with
  | none =>
    rw [texts, Option.map_none, Option.map_eq_none_iff] at stdout
    exact stdout.symm
  | some shown =>
    cases texts' : second.shownTexts with
    | none => simp [texts, texts'] at stdout
    | some shown' =>
      simp only [texts, texts', Option.map_some, Option.some.injEq, Json.Scalar.text.injEq]
        at stdout stderr
      rw [Option.some.injEq]
      exact Prod.ext stdout.symm stderr.symm

theorem printable_row {event : Event} {b : UInt8} (member : b ∈ row event) : 0x20 ≤ b.toNat := by
  have printable : Text.Printable (String.ofList (Json.write (record event))).toList := by
    rw [String.toList_ofList]
    exact Json.printable_write (record event)
  exact printable.bytes member

theorem notify_judged (judgement : Judgement) :
    (Style.jsonLines.reporter.notify {} (.judged judgement)).2 = none ∧
      (Style.jsonLines.reporter.notify {} (.judged judgement)).1.taken =
        row (.judged judgement) ++ [lineFeed] := by
  obtain ⟨succeeds, taken⟩ :=
    @Style.notify_of_sound .jsonLines {} ⟨rfl, rfl⟩ (.judged judgement)
  simp only [Style.render, encode_render, List.nil_append] at taken
  exact ⟨succeeds, taken⟩

/-- Whatever was judged, its line has no control characters, and by the grammar it denotes one
    object, in which no key stands twice and whose members are what is said of the fixture.  Two
    lines are the same only if they show the same. -/
theorem judged_denotes_members (judgement : Judgement) :
    let call := Style.jsonLines.reporter.notify {} (.judged judgement)
    ∃ line text members,
      call.2 = none ∧
      call.1.taken = line ++ [lineFeed] ∧
      (∀ b ∈ line, 0x20 ≤ b.toNat) ∧
      Utf8.decode? line = some text ∧
      (∀ value, Json.IsText text.toList value ↔ value = .object members) ∧
      (members.map Prod.fst).Nodup ∧
      members.Perm (fixtureMembers judgement) ∧
      ∀ other : Judgement,
        (Style.jsonLines.reporter.notify {} (.judged other)).1.taken = call.1.taken →
          other.SameShown judgement := by
  dsimp only
  obtain ⟨succeeds, taken⟩ := notify_judged judgement
  refine ⟨_, String.ofList (Json.write (fixtureRecord judgement)), _, succeeds, taken, ?_,
    Utf8.decode?_encode _, ?_, keys_fixtureRecord judgement, members_fixtureRecord judgement, ?_⟩
  · intro b member
    exact printable_row member
  · rw [String.toList_ofList]
    exact Json.isText_write (fixtureRecord judgement)
  · intro other same
    rw [taken, (notify_judged other).2] at same
    have rows := List.append_cancel_right same
    -- The reader gives the record of either back.
    have records := readRow?_row (.judged other)
    rw [rows, readRow?_row, Option.some.injEq] at records
    exact sameShown_of_fixtureRecord records.symm

end JsonLines

end Conformance
