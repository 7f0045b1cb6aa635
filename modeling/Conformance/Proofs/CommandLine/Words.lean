import Conformance.CommandLine.Parser
import Conformance.Proofs.CommandLine.Choices
import Conformance.Proofs.Text.Utf8

/-! # Settings written as words

A choice can be written as one word of the command line, with its value attached.  Read where
no option is pending, the word makes that choice and leaves everything else alone, whatever
its value looks like.  Words for different options are therefore read in any order, and the
command line that writes settings out is read back to them.
-/

namespace Conformance

/-! ## Words for choices -/

namespace CommandLine

/-- The word `--name=value`. -/
def longWord (name : String) (value : List UInt8) : List UInt8 :=
  Utf8.encode ("--" ++ name ++ "=") ++ value

end CommandLine

namespace Setting

open CommandLine (longWord)

/-- The word that makes a choice.  A flag that is off has none. -/
def word? : Setting → Option (List UInt8)
  | .subject program => some (longWord "subject" program.bytes)
  | .subjectArg argument => some (longWord "subject-arg" (Utf8.encode argument))
  | .mode argument => some (longWord "mode" (Utf8.encode argument))
  | .fixtureDir dir => some (longWord "fixtures" dir.bytes)
  | .marker word => some (longWord "marker" (Utf8.encode word))
  | .keyword word => some (Utf8.encode ("-k=" ++ word))
  | .timeout limit => some (longWord "timeout" (Utf8.encode (toString limit.seconds)))
  | .format .console => some (longWord "format" (Utf8.encode "console"))
  | .format .json => some (longWord "format" (Utf8.encode "json"))
  | .coloring .auto => some (longWord "color" (Utf8.encode "auto"))
  | .coloring .always => some (longWord "color" (Utf8.encode "always"))
  | .coloring .never => some (longWord "color" (Utf8.encode "never"))
  | .tolerance .strict => some (Utf8.encode "--strict-discovery")
  | .failFast true => some (Utf8.encode "-x")
  | .verbose true => some (Utf8.encode "-v")
  | .tolerance .permissive | .failFast false | .verbose false => none

/-- Whether a choice can be written: a path is not empty, and a limit is a positive number of
    whole seconds that fits in 64 bits. -/
def Writable : Setting → Prop
  | .subject path | .fixtureDir path => path.bytes ≠ []
  | .timeout limit =>
    ∃ seconds, 0 < seconds ∧ seconds ≤ CommandLine.greatestNumber ∧ limit = .ofSeconds seconds
  | _ => True

theorem isDefault_of_unwritten {choice : Setting} (unwritten : choice.word?.isSome = false) :
    choice.IsDefault := by
  cases choice with
  | tolerance tolerance => cases tolerance <;> first | rfl | cases unwritten
  | failFast on | verbose on => cases on <;> first | rfl | cases unwritten
  | format format => cases format <;> cases unwritten
  | coloring coloring => cases coloring <;> cases unwritten
  | _ => cases unwritten

end Setting

/-- Settings that words can say: the paths are not empty, and a limit is a positive number of
    whole seconds that fits in 64 bits. -/
structure Settings.Writable (settings : Settings) : Prop where
  subject : settings.subject.bytes ≠ []
  fixtureDir : settings.fixtureDir.bytes ≠ []
  timeout : ∀ limit ∈ settings.timeout,
    ∃ seconds, 0 < seconds ∧ seconds ≤ CommandLine.greatestNumber ∧ limit = .ofSeconds seconds

theorem Settings.Writable.of_mem {settings : Settings} (writable : settings.Writable)
    {choice : Setting} (member : choice ∈ settings.choices) : choice.Writable := by
  have chose := mem_choices_iff.mp member
  cases choice with
  | subject program => cases chose; exact writable.subject
  | fixtureDir dir => cases chose; exact writable.fixtureDir
  | timeout limit =>
    obtain ⟨chosen, limited, same⟩ := Option.map_eq_some_iff.mp chose
    cases same
    exact writable.timeout limit limited
  | _ => trivial

namespace CommandLine

/-! ## Values -/

theorem digit?_digitChar : ∀ n < 10, digit? (Nat.digitChar n) = some n := by decide

theorem appendDigit_digitChar {n digit : Nat} (isDigit : digit < 10)
    (fits : n * 10 + digit ≤ greatestNumber) :
    appendDigit n (Nat.digitChar digit) = .ok (n * 10 + digit) := by
  simp only [appendDigit, digit?_digitChar digit isDigit, if_neg (Nat.not_lt.mpr fits)]

/-- The digits of a number are read back to it. -/
theorem foldlM_appendDigit (n : Nat) (fits : n ≤ greatestNumber) :
    (Nat.toDigits 10 n).foldlM appendDigit 0 = .ok n := by
  -- The last digit is appended to the number that the digits before it spell.
  induction n using Nat.strongRecOn with
  | _ n ih =>
    by_cases small : n < 10
    · have read := @appendDigit_digitChar 0 n small (by omega)
      rw [Nat.toDigits_of_lt_base small, List.foldlM_cons, read, Nat.zero_mul, Nat.zero_add]
      rfl
    · have front := ih (n / 10) (by omega) (by omega)
      have back := @appendDigit_digitChar (n / 10) (n % 10) (by omega) (by omega)
      have whole : n / 10 * 10 + n % 10 = n := by omega
      rw [whole] at back
      rw [Nat.toDigits_of_base_le (by decide) (by omega), List.foldlM_append, front]
      exact (List.foldlM_cons ..).trans (congrArg (· >>= _) back)

theorem readNumber_unsigned {c : Char} {digits : List Char} {n : Nat} (unsigned : c ≠ '+')
    (read : (c :: digits).foldlM appendDigit 0 = .ok n) (positive : 0 < n) :
    readNumber (c :: digits) = .ok n := by
  simp only [readNumber]
  split
  next => simp_all
  next =>
    split
    next => simp_all
    next other done =>
      have same : other = n := by simp_all
      rw [same, if_neg (Nat.ne_of_gt positive)]

theorem readNumber_toString {n : Nat} (positive : 0 < n) (fits : n ≤ greatestNumber) :
    readNumber (toString n).toList = .ok n := by
  have read := foldlM_appendDigit n fits
  have spelled : (toString n).toList = Nat.toDigits 10 n := Nat.toList_repr
  obtain ⟨c, digits, shape⟩ := List.exists_cons_of_ne_nil (Nat.toDigits_ne_nil (n := n) (b := 10))
  have isDigit : c.isDigit = true :=
    Nat.isDigit_of_mem_toDigits (b := 10) (n := n) (by decide) (by decide) (by simp [shape])
  rw [shape] at read
  rw [spelled, shape]
  exact readNumber_unsigned (by rintro rfl; cases isDigit) read positive

theorem readSeconds_ofSeconds (opt : Opt) {seconds : Nat} (positive : 0 < seconds)
    (fits : seconds ≤ greatestNumber) :
    readSeconds opt (Utf8.encode (toString seconds)) = .ok (.ofSeconds seconds) := by
  simp only [readSeconds, Utf8.decode?_encode, readNumber_toString positive fits]

theorem readPath_of_ne_nil (opt : Opt) {bytes : List UInt8} (nonempty : bytes ≠ []) :
    readPath opt bytes = .ok ⟨bytes⟩ := by
  rw [readPath, if_neg (by simpa using nonempty)]

@[simp] theorem readText_encode (text : String) : readText (Utf8.encode text) = .ok text := by
  rw [readText, Utf8.decode?_encode]

/-- The default that help shows for an option is the one in use without it. -/
theorem isDefault_of_shown {opt : Opt} {text : String} (shown : opt.spec.default = some text) :
    ∃ read choice, opt.action = .take read ∧ read (Utf8.encode text) = .ok choice ∧
      choice.IsDefault := by
  cases opt with
  | mode | marker =>
    cases shown
    exact ⟨_, _, rfl, congrArg (Except.map _) (readText_encode _), rfl⟩
  | fixtures =>
    cases shown
    exact ⟨_, _, rfl, congrArg (Except.map _) (readPath_of_ne_nil _ (by decide)), rfl⟩
  | format => cases shown; exact ⟨_, .format .console, rfl, by decide +kernel, rfl⟩
  | color => cases shown; exact ⟨_, .coloring .auto, rfl, by decide +kernel, rfl⟩
  | _ => cases shown

/-! ## Shapes of words -/

namespace Word

theorem ofBytes_longWord {name : String} (plain : '=' ∉ name.toList) (value : List UInt8) :
    ofBytes (longWord name value) = .long (Utf8.encode name) (some value) := by
  have before : ∀ b ∈ Utf8.encode name, decide (b ≠ equals) = true := by
    intro b member
    rw [decide_eq_true_iff]
    rintro rfl
    exact plain ((Utf8.mem_encode (by decide) (by decide)).mp member)
  have front : (Utf8.encode name ++ equals :: value).takeWhile (· ≠ equals) =
      Utf8.encode name := by
    rw [List.takeWhile_append_of_pos before]
    simp
  have back : (Utf8.encode name ++ equals :: value).dropWhile (· ≠ equals) =
      equals :: value := by
    rw [List.dropWhile_append_of_pos before]
    simp
  have spelled : longWord name value =
      hyphen :: hyphen :: (Utf8.encode name ++ equals :: value) := by
    have hyphens : Utf8.encode "--" = [hyphen, hyphen] := rfl
    have sign : Utf8.encode "=" = [equals] := rfl
    simp [longWord, hyphens, sign]
  rw [spelled]
  simp only [ofBytes, front, back]
  simp

theorem ofBytes_letters {text : String} {first : UInt8} {more : List UInt8}
    (spelled : Utf8.encode text = first :: more) (other : first ≠ hyphen) :
    ofBytes (Utf8.encode ("-" ++ text)) = .letters text.toList [] := by
  have sign : Utf8.encode "-" = [hyphen] := rfl
  have split := Utf8.splitValid_encode text
  rw [spelled] at split
  rw [Utf8.encode_append, sign, spelled]
  simp [ofBytes, other, split]

end Word

/-! ## One word -/

theorem long?_of_named : ∀ opt ∈ Scope.run.options, ∀ name ∈ opt.spec.long,
    '=' ∉ name.toList ∧ Scope.run.long? name = some opt := by
  decide +kernel

namespace Progress

variable {progress : Progress} {opt : Opt} {choice : Setting}

/-- Where a word is read as an option: no value is awaited, and no divider was read. -/
structure Ready (progress : Progress) : Prop where
  pending : progress.pending = none
  undivided : progress.divided = false

theorem Ready.settle (ready : progress.Ready) : progress.settle = .ok progress := by
  rw [Progress.settle, ready.pending]

theorem Ready.add (ready : progress.Ready) (opt : Opt) (choice : Setting) :
    (progress.add opt choice).Ready :=
  ⟨ready.pending, ready.undivided⟩

theorem take_of_reads {α : Type} {read : List UInt8 → Except Misuse α} {make : α → Setting}
    {value : List UInt8} {found : α} (reads : read value = .ok found)
    (fresh : progress.repeats opt = false) :
    progress.take opt (fun bytes => (read bytes).map make) value =
      .ok (progress.add opt (make found)) := by
  rw [take, fresh, reads]
  rfl

theorem step_longWord (ready : progress.Ready) (listed : opt ∈ Scope.run.options)
    {name : String} (named : opt.spec.long = some name)
    {read : List UInt8 → Except Misuse Setting} (takes : opt.action = .take read)
    (value : List UInt8) :
    progress.step .run (longWord name value) = progress.take opt read value := by
  obtain ⟨plain, found⟩ := long?_of_named opt listed name named
  simp only [step, ready.undivided, ready.pending, Word.ofBytes_longWord plain, long,
    Utf8.decode?_encode, Option.bind_some, found, takes, ready.settle]
  rfl

theorem letters_flag (ready : progress.Ready) (fresh : progress.repeats opt = false)
    {letter : Char} (found : Scope.run.short? letter = some opt) (sets : opt.action = .set choice) :
    progress.letters .run [] [letter] = .ok (progress.add opt choice) := by
  simp [letters, found, sets, ready.settle, Except.bind, flag, fresh]

theorem letters_value (ready : progress.Ready) {letter : Char}
    (found : Scope.run.short? letter = some opt)
    {read : List UInt8 → Except Misuse Setting} (takes : opt.action = .take read)
    (value : String) :
    progress.letters .run [] (letter :: '=' :: value.toList) =
      progress.take opt read (Utf8.encode value) := by
  have sign : String.utf8EncodeChar '=' = [equals] := rfl
  simp [letters, found, takes, sign, ready.settle, Except.bind, attached, Utf8.encode]

end Progress

/-- The word makes the choice wherever an option may stand that was not given yet. -/
def Makes (word : List UInt8) (choice : Setting) : Prop :=
  ∀ progress : Progress, progress.Ready → progress.repeats choice.opt = false →
    progress.step .run word = .ok (progress.add choice.opt choice)

theorem makes_longWord {α : Type} {read : List UInt8 → Except Misuse α} {make : α → Setting}
    {name : String} {value : List UInt8} {found : α}
    (named : (make found).opt.spec.long = some name)
    (takes : (make found).opt.action = .take fun bytes => (read bytes).map make)
    (reads : read value = .ok found) : Makes (longWord name value) (make found) := by
  intro progress ready fresh
  rw [Progress.step_longWord ready (make found).opt_mem_options named takes]
  exact Progress.take_of_reads reads fresh

theorem makes_letter (letter : Char) {word : List UInt8} {choice : Setting}
    (shape : Word.ofBytes word = .letters [letter] [])
    (found : Scope.run.short? letter = some choice.opt)
    (sets : choice.opt.action = .set choice) : Makes word choice := by
  intro progress ready fresh
  have letters := Progress.letters_flag ready fresh found sets
  simp only [Progress.step, ready.undivided, ready.pending, shape]
  simpa using letters

theorem makes_keyword (word : String) : Makes (Utf8.encode ("-k=" ++ word)) (.keyword word) := by
  intro progress ready fresh
  -- The word is read letter by letter until the first that takes a value, so the equals sign
  -- and what follows come back as the bytes of letters.
  have apart : "-k=" ++ word = "-" ++ ("k=" ++ word) := (String.append_assoc ..).symm ▸ rfl
  have spelled : Utf8.encode ("k=" ++ word) = 0x6B :: equals :: Utf8.encode word :=
    Utf8.encode_append ..
  have letters : ("k=" ++ word).toList = 'k' :: '=' :: word.toList := String.toList_append ..
  have found : Scope.run.short? 'k' = some .keyword := by decide
  have read := Progress.letters_value ready found rfl word
  simp only [Progress.step, ready.undivided, ready.pending, apart,
    Word.ofBytes_letters spelled (by decide), letters, read]
  exact Progress.take_of_reads (readText_encode word) fresh

theorem makes_strictDiscovery :
    Makes (Utf8.encode "--strict-discovery") (.tolerance .strict) := by
  intro progress ready fresh
  have shape : Word.ofBytes (Utf8.encode "--strict-discovery") =
      .long (Utf8.encode "strict-discovery") none := by decide +kernel
  obtain ⟨-, found⟩ := long?_of_named .strictDiscovery (by decide) _ rfl
  have unread : progress.repeats .strictDiscovery = false := fresh
  simp [Progress.step, ready.undivided, ready.pending, shape, Progress.long, found, Opt.action,
    ready.settle, Except.bind, Progress.flag, unread, Setting.opt]

/-- The word for a choice makes it. -/
theorem makes_word {choice : Setting} (writable : choice.Writable) {word : List UInt8}
    (written : choice.word? = some word) : Makes word choice := by
  cases choice with
  | subject path | fixtureDir path =>
    cases written
    exact makes_longWord rfl rfl (readPath_of_ne_nil _ writable)
  | subjectArg text | mode text | marker text =>
    cases written
    exact makes_longWord rfl rfl (readText_encode text)
  | keyword text =>
    cases written
    exact makes_keyword text
  | timeout limit =>
    obtain ⟨seconds, positive, fits, rfl⟩ := writable
    cases written
    exact makes_longWord rfl rfl (readSeconds_ofSeconds _ positive fits)
  | format form =>
    cases form <;> cases written <;> exact makes_longWord rfl rfl (by decide +kernel)
  | coloring coloring =>
    cases coloring <;> cases written <;>
      exact makes_longWord rfl rfl (by decide +kernel)
  | tolerance tolerance =>
    cases tolerance <;> cases written
    exact makes_strictDiscovery
  | failFast on =>
    cases on <;> cases written
    exact makes_letter 'x' (by decide +kernel) (by decide) rfl
  | verbose on =>
    cases on <;> cases written
    exact makes_letter 'v' (by decide +kernel) (by decide) rfl

/-! ## All words -/

namespace Progress

variable {progress : Progress} {choices : List Setting}

/-- What has been read once these choices are made as well. -/
def addAll (progress : Progress) (choices : List Setting) : Progress :=
  { progress with
    given := progress.given ++ choices.map Setting.opt
    choices := progress.choices ++ choices }

theorem addAll_nil (progress : Progress) : progress.addAll [] = progress := by
  simp [addAll]

theorem addAll_cons (progress : Progress) (choice : Setting) (choices : List Setting) :
    progress.addAll (choice :: choices) = (progress.add choice.opt choice).addAll choices := by
  simp [addAll, add]

theorem Ready.addAll (ready : progress.Ready) (choices : List Setting) :
    (progress.addAll choices).Ready :=
  ⟨ready.pending, ready.undivided⟩

theorem repeats_add {opt : Opt} {choice : Setting} (fresh : progress.repeats opt = false)
    (another : choice.opt = opt → opt.spec.repeatable = true) :
    (progress.add choice.opt choice).repeats opt = false := by
  cases repeatable : opt.spec.repeatable with
  | true => simp [repeats, repeatable]
  | false =>
    have differs : opt ≠ choice.opt := by
      rintro rfl
      exact absurd (another rfl) (by simp [repeatable])
    simpa [repeats, repeatable, add, differs] using fresh

/-- Words for choices, none for an option that was given before and may not be again, make
    their choices one after the other. -/
theorem foldlM_words (ready : progress.Ready) (writable : ∀ choice ∈ choices, choice.Writable)
    (fresh : ∀ choice ∈ choices, progress.repeats choice.opt = false)
    (distinct : Unrepeated choices) :
    (choices.filterMap Setting.word?).foldlM (step .run) progress =
      .ok (progress.addAll (choices.filter (·.word?.isSome))) := by
  -- A word leaves nothing pending, and spends no option that a later word needs.
  induction choices generalizing progress with
  | nil => exact congrArg Except.ok (addAll_nil progress).symm
  | cons choice choices ih =>
    obtain ⟨apart, distinct⟩ := List.pairwise_cons.mp distinct
    obtain ⟨writable, others⟩ := List.forall_mem_cons.mp writable
    obtain ⟨unread, fresh⟩ := List.forall_mem_cons.mp fresh
    cases written : choice.word? with
    | none =>
      rw [List.filterMap_cons_none written, List.filter_cons_of_neg (by simp [written])]
      exact ih ready others fresh distinct
    | some word =>
      have made := makes_word writable written progress ready unread
      have still : ∀ other ∈ choices,
          (progress.add choice.opt choice).repeats other.opt = false := fun other member =>
        repeats_add (fresh other member) fun same => same ▸ apart other member same
      rw [List.filterMap_cons_some written, List.filter_cons_of_pos (by simp [written]),
        List.foldlM_cons, made, addAll_cons]
      exact ih (ready.add _ _) others still distinct

end Progress

theorem readRun_words {choices : List Setting} (writable : ∀ choice ∈ choices, choice.Writable)
    (distinct : Unrepeated choices)
    (subject : ∃ choice ∈ choices.filter (·.word?.isSome), choice.opt = .subject) :
    readRun (choices.filterMap Setting.word?) =
      .ok (.run (choices.filter (·.word?.isSome))) := by
  have ready : ({} : Progress).Ready := ⟨rfl, rfl⟩
  have taken := Progress.foldlM_words ready writable (fun _ _ => rfl) distinct
  have read : readOptions .run (choices.filterMap Setting.word?) = _ :=
    (congrArg (· >>= Progress.settle) taken).trans (ready.addAll _).settle
  obtain ⟨choice, member, about⟩ := subject
  have given : (({} : Progress).addAll (choices.filter (·.word?.isSome))).given.contains
      .subject = true :=
    List.contains_iff_mem.mpr (about ▸ List.mem_map_of_mem member)
  rw [readRun, read]
  simp only [bind, Except.bind, given, if_true]
  rfl

/-- Settings whose values look like options and separators. -/
def confusable : Settings where
  subject := ⟨[0xFF]⟩
  subjectArgs := ["-v", ""]
  mode := ""
  keyword := some "="
  timeout := some (.ofSeconds 90)
  tolerance := .strict
  coloring := .never

end CommandLine

end Conformance
