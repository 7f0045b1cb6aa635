import Conformance.Proofs.Json
import Conformance.Proofs.Verdict
import Mathlib.Logic.Basic

/-! # What a wait status says

A raw status is a 32-bit number with a sign, and what it says is in its bits: the low seven hold
the signal, the eighth tells of a core dump, and the second byte holds the exit code.  Reading it
by remainders and quotients, as `WaitStatus.ending` does, gives what masks and a shift that keeps
the sign give (`exitCode_ofInt`, `signal_ofInt`).

What was read is told apart by its label (`Ending.label_injective`), and it is judged by the bits
of signal and code alone (`ofStatus_consistent`).
-/

namespace Conformance

namespace WaitStatus

/-! ## Bits -/

/-- The bits of the signal. -/
def signalBits (raw : Int32) : Int32 := raw &&& 0x7f

/-- The second byte.  Copies of the sign that are shifted in are masked out again. -/
def secondByte (raw : Int32) : Int32 := (raw >>> 8) &&& 0xff

/-- Whether the process exited. -/
def HasExited (raw : Int32) : Prop := signalBits raw = 0

/-- Whether a signal ended the process.  For a stopped process all bits of the signal are set,
    so that one more is negative in eight bits. -/
def WasSignalled (raw : Int32) : Prop := 2 ≤ (signalBits raw + 1).toInt8

instance (raw : Int32) : Decidable (HasExited raw) := inferInstanceAs (Decidable (_ = _))

instance (raw : Int32) : Decidable (WasSignalled raw) := inferInstanceAs (Decidable (_ ≤ _))

def unsigned (raw : Int32) : Nat := raw.toUInt32.toNat

theorem word_ofInt (raw : Int32) : (ofInt raw.toInt).word.toNat = unsigned raw := by
  rw [ofInt, Int32.ofInt_toInt, unsigned]

theorem unsigned_inj {raw other : Int32} : unsigned raw = unsigned other ↔ raw = other := by
  constructor
  · intro same
    apply Int32.toBitVec_inj.mp
    exact BitVec.eq_of_toNat_eq same
  · rintro rfl
    rfl

theorem toInt_of_unsigned {raw : Int32} (small : unsigned raw < 256) :
    raw.toInt = (unsigned raw : Int) := by
  rw [← Int32.toInt_toBitVec]
  apply BitVec.toInt_eq_toNat_of_lt
  change 2 * unsigned raw < 2 ^ 32
  omega

theorem unsigned_signalBits (raw : Int32) : unsigned (signalBits raw) = unsigned raw % 128 := by
  rw [signalBits, unsigned, Int32.toUInt32_and, UInt32.toNat_and]
  exact Nat.and_two_pow_sub_one_eq_mod _ 7

theorem toNat_sshiftRight (bits : BitVec 32) :
    (bits.sshiftRight 8).toNat % 256 = bits.toNat / 256 % 256 := by
  have bounded := bits.isLt
  rw [BitVec.toNat_sshiftRight, Nat.shiftRight_eq_div_pow, Nat.shiftRight_eq_div_pow]
  split <;> omega

theorem unsigned_secondByte (raw : Int32) :
    unsigned (secondByte raw) = unsigned raw / 256 % 256 := by
  have shifted : (raw >>> 8).toBitVec = raw.toBitVec.sshiftRight 8 := Int32.toBitVec_shiftRight ..
  rw [secondByte, unsigned, Int32.toUInt32_and, UInt32.toNat_and]
  calc (raw >>> 8).toBitVec.toNat &&& 0xff
      = (raw >>> 8).toBitVec.toNat % 256 := Nat.and_two_pow_sub_one_eq_mod _ 8
    _ = unsigned raw / 256 % 256 := by rw [shifted, toNat_sshiftRight]; rfl

theorem toInt_signalBits (raw : Int32) : (signalBits raw).toInt = (unsigned raw % 128 : Nat) := by
  rw [toInt_of_unsigned, unsigned_signalBits]
  rw [unsigned_signalBits]
  omega

theorem toInt_secondByte (raw : Int32) :
    (secondByte raw).toInt = (unsigned raw / 256 % 256 : Nat) := by
  rw [toInt_of_unsigned, unsigned_secondByte]
  rw [unsigned_secondByte]
  omega

theorem hasExited_iff {raw : Int32} : HasExited raw ↔ unsigned raw % 128 = 0 := by
  rw [HasExited, ← unsigned_inj, unsigned_signalBits]
  rfl

theorem signalBits_full_iff {raw : Int32} : raw &&& 0x7f = 0x7f ↔ unsigned raw % 128 = 127 := by
  rw [← unsigned_signalBits, ← unsigned_inj]
  rfl

theorem wasSignalled_iff {raw : Int32} :
    WasSignalled raw ↔ unsigned raw % 128 ≠ 0 ∧ unsigned raw % 128 ≠ 127 := by
  rw [WasSignalled, Int8.le_iff_toInt_le, Int32.toInt_toInt8, Int32.toInt_add, toInt_signalBits]
  have bound : unsigned raw % 128 < 128 := Nat.mod_lt _ (by decide)
  generalize unsigned raw % 128 = signal at bound
  -- One more than the largest of these 128 numbers is the first one to wrap.
  revert signal
  decide

theorem masked_eq_zero {raw : Int32} :
    raw &&& 0xff7f = 0 ↔ unsigned raw % 128 = 0 ∧ unsigned raw / 256 % 256 = 0 := by
  have whole : unsigned (raw &&& 0xff7f) = unsigned raw &&& 0xff7f := by
    rw [unsigned, Int32.toUInt32_and, UInt32.toNat_and]
    rfl
  -- The mask has a part for the signal and one for the code.  The bit between them is in neither.
  have low : unsigned raw &&& 0x7f = unsigned raw % 128 := Nat.and_two_pow_sub_one_eq_mod _ 7
  have high : (unsigned raw &&& 0xff00) / 256 = unsigned raw / 256 % 256 := by
    calc (unsigned raw &&& 0xff00) / 256
        = unsigned raw >>> 8 &&& 0xff00 >>> 8 := by
          rw [← Nat.shiftRight_and_distrib, Nat.shiftRight_eq_div_pow]
      _ = unsigned raw / 256 % 256 := by
          rw [Nat.shiftRight_eq_div_pow]
          exact Nat.and_two_pow_sub_one_eq_mod _ 8
  have between : (unsigned raw &&& 0xff00) % 256 = 0 := by
    have zero := @Nat.and_mod_two_pow (unsigned raw) 0xff00 8
    simpa using zero
  rw [← unsigned_inj, whole, show 0xff7f = 0x7f ||| 0xff00 from rfl, Nat.and_or_distrib_left,
    show unsigned 0 = 0 from rfl, Nat.or_eq_zero_iff, low]
  omega

/-! ## Endings -/

/-- A status says of a process that it exited, that a signal ended it, or neither. -/
theorem ending_ofInt (raw : Int32) :
    (HasExited raw ∧ ¬ WasSignalled raw ∧
      (ofInt raw.toInt).ending = .exited (unsigned raw / 256 % 256)) ∨
    (¬ HasExited raw ∧ WasSignalled raw ∧
      (ofInt raw.toInt).ending = .signalled (unsigned raw % 128)) ∨
    (¬ HasExited raw ∧ ¬ WasSignalled raw ∧ (ofInt raw.toInt).ending = .neither) := by
  simp only [hasExited_iff, wasSignalled_iff, ending, word_ofInt]
  split
  next exits => simp [exits]
  next running =>
    split
    next stopped => simp [stopped]
    next signalled => simp [running, signalled]

theorem exitCode_ofInt (raw : Int32) :
    (ofInt raw.toInt).exitCode = if HasExited raw then some (secondByte raw).toInt else none := by
  rw [exitCode]
  obtain ⟨exits, -, ending⟩ | ⟨running, -, ending⟩ | ⟨running, -, ending⟩ := ending_ofInt raw
  · rw [ending, if_pos exits, toInt_secondByte]
  · rw [ending, if_neg running]
  · rw [ending, if_neg running]

theorem signal_ofInt (raw : Int32) :
    (ofInt raw.toInt).signal = if WasSignalled raw then some (signalBits raw).toInt else none := by
  rw [signal]
  obtain ⟨-, unsignalled, ending⟩ | ⟨-, signalled, ending⟩ | ⟨-, unsignalled, ending⟩ :=
    ending_ofInt raw
  · rw [ending, if_neg unsignalled]
  · rw [ending, if_pos signalled, toInt_signalBits]
  · rw [ending, if_neg unsignalled]

end WaitStatus

/-! ## Labels -/

/-- An ending in words. -/
def Ending.label : Ending → String
  | .exited code => "exit " ++ toString (code : Int)
  | .signalled signal => "signal " ++ toString (signal : Int)
  | .neither => "terminated"

theorem numbered_inj {word : String} {first second : Nat}
    (same : word ++ toString (first : Int) = word ++ toString (second : Int)) :
    first = second := by
  have chars := congrArg String.toList same
  rw [String.toList_append, String.toList_append] at chars
  have digits : Nat.toDigits 10 first = Nat.toDigits 10 second := by
    rw [← Json.toList_toString_ofNat, ← Json.toList_toString_ofNat]
    exact List.append_cancel_left chars
  rw [← @Nat.ofDigitChars_ten_toDigits first, digits, Nat.ofDigitChars_ten_toDigits]

theorem Ending.label_injective : Function.Injective Ending.label := by
  intro one other same
  -- The first letter tells how a process ended, and the number tells the rest.
  have letters := congrArg (·.toList.head?) same
  cases one with
  | exited code =>
    cases other with
    | exited code' => rw [numbered_inj same]
    | signalled signal => simp [label] at letters
    | neither => simp [label] at letters
  | signalled signal =>
    cases other with
    | exited code => simp [label] at letters
    | signalled signal' => rw [numbered_inj same]
    | neither => simp [label] at letters
  | neither =>
    cases other with
    | exited code => simp [label] at letters
    | signalled signal => simp [label] at letters
    | neither => rfl

namespace Invocation

open WaitStatus

theorem label_ofStatus (status : WaitStatus) (stdout stderr : List UInt8) (duration : Duration) :
    (ofStatus status stdout stderr duration).label = status.ending.label := by
  simp only [label, ofStatus, WaitStatus.exitCode, WaitStatus.signal]
  cases status.ending <;> rfl

theorem label_of_timedOut {invocation : Invocation} (late : invocation.timedOut = true) :
    invocation.label = "timed out after " ++ invocation.duration.showSeconds ++ "s" := by
  rw [label, if_pos late]

/-! ## Judgements -/

theorem verdict_eq_succeeded {invocation : Invocation} (inTime : invocation.timedOut = false)
    (expected : Expectation) :
    invocation.verdict expected = .succeeded ↔
      (expected = .rejected ↔ invocation.exitCode ≠ some 0) := by
  rw [← Verdict.isSuccess_iff, isSuccess_verdict, inTime]
  simp

theorem exitCode_eq_zero {raw : Int32} :
    (ofInt raw.toInt).exitCode = some 0 ↔ raw &&& 0xff7f = 0 := by
  rw [exitCode_ofInt, masked_eq_zero, ← hasExited_iff, toInt_secondByte]
  by_cases exits : HasExited raw
  · rw [if_pos exits, Option.some.injEq, and_iff_right exits]
    omega
  · simp [exits]

theorem ofStatus_cases (raw : Int32) (stdout stderr : List UInt8) (duration : Duration) :
    let invocation := ofStatus (.ofInt raw.toInt) stdout stderr duration
    (∃ code : Nat, code ≤ 255 ∧ raw &&& 0x7f ≠ 0x7f ∧
      invocation.exitCode = some (code : Int) ∧ invocation.signal = none ∧
      invocation.label = "exit " ++ toString (code : Int)) ∨
    (∃ signal : Nat, 1 ≤ signal ∧ signal ≤ 126 ∧ raw &&& 0x7f ≠ 0x7f ∧
      invocation.exitCode = none ∧ invocation.signal = some (signal : Int) ∧
      invocation.label = "signal " ++ toString (signal : Int)) ∨
    (raw &&& 0x7f = 0x7f ∧ invocation.exitCode = none ∧ invocation.signal = none ∧
      invocation.label = "terminated") := by
  intro invocation
  have label : invocation.label = (ofInt raw.toInt).ending.label :=
    label_ofStatus (.ofInt raw.toInt) stdout stderr duration
  have code : invocation.exitCode = (ofInt raw.toInt).exitCode := rfl
  have signal : invocation.signal = (ofInt raw.toInt).signal := rfl
  rw [WaitStatus.exitCode] at code
  rw [WaitStatus.signal] at signal
  simp only [ne_eq, signalBits_full_iff]
  obtain ⟨exits, -, ending⟩ | ⟨-, signalled, ending⟩ | ⟨running, unsignalled, ending⟩ :=
    ending_ofInt raw
  · rw [hasExited_iff] at exits
    rw [ending] at label code signal
    exact .inl ⟨unsigned raw / 256 % 256, by omega, by omega, code, signal, label⟩
  · rw [wasSignalled_iff] at signalled
    rw [ending] at label code signal
    exact .inr (.inl ⟨unsigned raw % 128, by omega, by omega, signalled.2, code, signal, label⟩)
  · rw [hasExited_iff] at running
    rw [wasSignalled_iff] at unsignalled
    rw [ending] at label code signal
    exact .inr (.inr ⟨by omega, code, signal, label⟩)

/-- What the result of a process says about its raw status. -/
structure Decodes (raw : Int32) (invocation : Invocation) : Prop where
  exitCode_eq : invocation.exitCode =
    if HasExited raw then some (secondByte raw).toInt else none
  signal_eq : invocation.signal =
    if WasSignalled raw then some (signalBits raw).toInt else none
  atMostOne : invocation.exitCode = none ∨ invocation.signal = none
  codes : ∀ code, invocation.exitCode = some code → 0 ≤ code ∧ code ≤ 255
  signals : ∀ signal, invocation.signal = some signal → 1 ≤ signal ∧ signal ≤ 126
  neither_iff : invocation.exitCode = none ∧ invocation.signal = none ↔ raw &&& 0x7f = 0x7f
  labelExit : ∀ code, invocation.exitCode = some code →
    invocation.label = "exit " ++ toString code
  labelSignal : ∀ signal, invocation.signal = some signal →
    invocation.label = "signal " ++ toString signal
  labelNeither : invocation.exitCode = none → invocation.signal = none →
    invocation.label = "terminated"

theorem ofStatus_decodes (raw : Int32) (stdout stderr : List UInt8) (duration : Duration) :
    Decodes raw (ofStatus (.ofInt raw.toInt) stdout stderr duration) := by
  have code := exitCode_ofInt raw
  have signal := signal_ofInt raw
  obtain ⟨number, bound, bits, isCode, isSignal, label⟩ |
      ⟨number, low, high, bits, isCode, isSignal, label⟩ | ⟨bits, isCode, isSignal, label⟩ :=
    ofStatus_cases raw stdout stderr duration
  all_goals
    refine ⟨code, signal, ?_, ?_, ?_, ?_, ?_, ?_, ?_⟩ <;> simp [isCode, isSignal, label, bits]
  all_goals omega

theorem eq_of_label {status other : WaitStatus} {stdout stderr stdout' stderr' : List UInt8}
    {duration duration' : Duration}
    (same : (ofStatus other stdout' stderr' duration').label =
      (ofStatus status stdout stderr duration).label) :
    other.exitCode = status.exitCode ∧ other.signal = status.signal := by
  rw [label_ofStatus, label_ofStatus] at same
  have ending := Ending.label_injective same
  simp only [WaitStatus.exitCode, WaitStatus.signal, ending, and_self]

/-- A raw status is decoded, labelled and judged consistently.  Two statuses with the same label
    are read alike.  The subject has accepted if no bit of signal and code is set, and of the two
    expectations exactly one is met.  After a timeout none is, and the label tells the duration
    and nothing else. -/
theorem ofStatus_consistent (raw : Int32) (stdout stderr : List UInt8) (duration : Duration) :
    let invocation := ofStatus (.ofInt raw.toInt) stdout stderr duration
    Decodes raw invocation ∧
    (∀ (raw' : Int32) (stdout' stderr' : List UInt8) (duration' : Duration),
      let other := ofStatus (.ofInt raw'.toInt) stdout' stderr' duration'
      other.label = invocation.label →
        other.exitCode = invocation.exitCode ∧ other.signal = invocation.signal) ∧
    (invocation.verdict .accepted = .succeeded ↔ raw &&& 0xff7f = 0) ∧
    Xor (invocation.verdict .accepted = .succeeded) (invocation.verdict .rejected = .succeeded) ∧
    (∀ expected, { invocation with timedOut := true }.verdict expected = .timedOut) ∧
    ∀ other : Invocation, other.timedOut = true → other.duration = duration →
      other.label = { invocation with timedOut := true }.label := by
  intro invocation
  have inTime : invocation.timedOut = false := rfl
  have zero : invocation.exitCode = some 0 ↔ raw &&& 0xff7f = 0 := exitCode_eq_zero
  refine ⟨ofStatus_decodes raw stdout stderr duration, fun _ _ _ _ => eq_of_label, ?_, ?_,
    fun _ => rfl, ?_⟩
  · rw [verdict_eq_succeeded inTime, ← zero]
    simp
  · rw [verdict_eq_succeeded inTime, verdict_eq_succeeded inTime]
    by_cases accepts : invocation.exitCode = some 0 <;> simp [accepts, Xor]
  · intro other late same
    rw [label_of_timedOut late, label_of_timedOut rfl, same]
    rfl

theorem dumpedCore_consistent :
    let dumped := ofStatus (.ofInt 139) [] [] .zero
    let stopped := ofStatus (.ofInt (-1)) [] [] .zero
    dumped.signal = some 11 ∧ dumped.label = "signal 11" ∧ dumped.verdict .accepted ≠ .succeeded ∧
    stopped.label = "terminated" ∧ { stopped with timedOut := true }.verdict .rejected = .timedOut := by
  intro dumped stopped
  obtain ⟨decodes, -, accepted, -, -, -⟩ := ofStatus_consistent 139 [] [] .zero
  obtain ⟨decodes', -, -, -, late, -⟩ := ofStatus_consistent (-1) [] [] .zero
  have signal : dumped.signal = some 11 := decodes.signal_eq.trans (by decide)
  have neither := decodes'.neither_iff.mpr (by decide)
  exact ⟨signal, decodes.labelSignal 11 signal, mt accepted.mp (by decide),
    decodes'.labelNeither neither.1 neither.2, late .rejected⟩

end Invocation

end Conformance
