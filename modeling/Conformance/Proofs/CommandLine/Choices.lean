import Conformance.CommandLine.Opt

/-! # Choices that express settings

Every option but the subject's arguments has one field to itself, and whatever is chosen for
it shows in that field and in no other.  So settings are known by what they have chosen for
each option, together with the arguments of the subject; and choices that agree with settings
make them, in whatever order they come and whichever of the defaults they leave unsaid.
-/

namespace Conformance

open CommandLine (Opt Scope)

namespace Setting

/-- The option that makes a choice. -/
def opt : Setting → Opt
  | .subject _ => .subject
  | .subjectArg _ => .subjectArg
  | .fixtureDir _ => .fixtures
  | .mode _ => .mode
  | .marker _ => .marker
  | .timeout _ => .timeout
  | .failFast _ => .exitFirst
  | .keyword _ => .keyword
  | .tolerance _ => .strictDiscovery
  | .format _ => .format
  | .coloring _ => .color
  | .verbose _ => .verbose

theorem opt_mem_options (choice : Setting) : choice.opt ∈ Scope.run.options := by
  cases choice <;> simp [opt, Scope.options]

/-- The argument that a choice adds to those of the subject. -/
def subjectArg? : Setting → Option String
  | .subjectArg argument => some argument
  | _ => none

/-- Whether a choice leaves the defaults as they are. -/
def IsDefault (choice : Setting) : Prop := Settings.choose {} choice = {}

instance (choice : Setting) : Decidable choice.IsDefault :=
  inferInstanceAs (Decidable (_ = _))

end Setting

namespace Settings

/-! ## Fields by their options -/

/-- What the settings have chosen for an option with a field of its own. -/
def choice (settings : Settings) : Opt → Option Setting
  | .subject => some (.subject settings.subject)
  | .mode => some (.mode settings.mode)
  | .fixtures => some (.fixtureDir settings.fixtureDir)
  | .keyword => settings.keyword.map .keyword
  | .marker => some (.marker settings.marker)
  | .strictDiscovery => some (.tolerance settings.tolerance)
  | .exitFirst => some (.failFast settings.failFast)
  | .timeout => settings.timeout.map .timeout
  | .format => some (.format settings.format)
  | .color => some (.coloring settings.coloring)
  | .verbose => some (.verbose settings.verbose)
  | .subjectArg | .help | .version => none

/-- The choices that the settings come to, the arguments of the subject apart. -/
def choices (settings : Settings) : List Setting := Scope.run.options.filterMap settings.choice

variable {settings start goal : Settings} {chosen : Setting} {made : List Setting} {opt : Opt}

theorem opt_of_choice (chose : settings.choice opt = some chosen) : chosen.opt = opt := by
  cases opt with
  | keyword | timeout =>
    obtain ⟨_, -, rfl⟩ := Option.map_eq_some_iff.mp chose
    rfl
  | subjectArg | help | version => cases chose
  | _ => cases chose; rfl

theorem mem_options_of_choice (chose : settings.choice opt = some chosen) :
    opt ∈ Scope.run.options := by
  cases opt <;> first | decide | cases chose

theorem mem_choices_iff : chosen ∈ settings.choices ↔ settings.choice chosen.opt = some chosen := by
  simp only [choices, List.mem_filterMap]
  constructor
  · rintro ⟨opt, -, chose⟩
    rwa [opt_of_choice chose]
  · intro chose
    exact ⟨_, mem_options_of_choice chose, chose⟩

theorem ext_choice {first second : Settings}
    (same : ∀ opt, first.choice opt = second.choice opt)
    (arguments : first.subjectArgs = second.subjectArgs) : first = second := by
  have keyword : first.keyword = second.keyword :=
    Option.map_injective (fun _ _ => Setting.keyword.inj) (same .keyword)
  have timeout : first.timeout = second.timeout :=
    Option.map_injective (fun _ _ => Setting.timeout.inj) (same .timeout)
  have subject := same .subject
  have mode := same .mode
  have fixtureDir := same .fixtures
  have marker := same .marker
  have tolerance := same .strictDiscovery
  have failFast := same .exitFirst
  have format := same .format
  have coloring := same .color
  have verbose := same .verbose
  cases first
  cases second
  simp_all [choice]

/-! ## Making choices -/

theorem choice_choose (settings : Settings) (chosen : Setting) (single : opt ≠ .subjectArg) :
    (settings.choose chosen).choice opt =
      if chosen.opt = opt then some chosen else settings.choice opt := by
  cases chosen <;> cases opt <;> first | rfl | exact absurd rfl single

/-- Choices that agree with the settings aimed at, about an option that either they are about
    or the settings at hand agree on, bring these settings about. -/
theorem choice_foldl (single : opt ≠ .subjectArg)
    (agrees : ∀ chosen ∈ made, chosen.opt = opt → goal.choice opt = some chosen)
    (rest : (∀ chosen ∈ made, chosen.opt ≠ opt) → start.choice opt = goal.choice opt) :
    (made.foldl choose start).choice opt = goal.choice opt := by
  induction made generalizing start with
  | nil => exact rest fun _ member => nomatch member
  | cons chosen made ih =>
    apply ih fun other member => agrees other (List.mem_cons_of_mem _ member)
    intro silent
    rw [choice_choose start chosen single]
    split
    case isTrue about => exact (agrees chosen (List.mem_cons_self ..) about).symm
    case isFalse about => exact rest (by simpa using ⟨about, silent⟩)

theorem subjectArgs_foldl (made : List Setting) (start : Settings) :
    (made.foldl choose start).subjectArgs =
      start.subjectArgs ++ made.filterMap Setting.subjectArg? := by
  induction made generalizing start with
  | nil => simp
  | cons chosen made ih =>
    rw [List.foldl_cons, ih]
    cases chosen with
    | subjectArg argument => simp [choose, Setting.subjectArg?]
    | _ => rfl

theorem foldl_choose_eq
    (agrees : ∀ chosen ∈ made, chosen.opt ≠ .subjectArg →
      goal.choice chosen.opt = some chosen)
    (rest : ∀ opt, opt ≠ .subjectArg → (∀ chosen ∈ made, chosen.opt ≠ opt) →
      start.choice opt = goal.choice opt)
    (arguments : start.subjectArgs ++ made.filterMap Setting.subjectArg? = goal.subjectArgs) :
    made.foldl choose start = goal := by
  refine ext_choice (fun opt => ?_) ((subjectArgs_foldl made start).trans arguments)
  by_cases single : opt = .subjectArg
  · rw [single]; rfl
  · refine choice_foldl single (fun chosen member about => ?_) (rest opt single)
    rw [← about]
    exact agrees chosen member (about ▸ single)

end Settings

/-! ## Expressing settings -/

/-- The choices express the settings: they are those that the settings come to, with some
    defaults left out, and one for each argument of the subject; they come in any order that
    leaves these arguments in theirs. -/
structure Expresses (choices : List Setting) (settings : Settings) : Prop where
  rearranged : ∃ kept : List Setting, kept.Sublist settings.choices ∧
    (∀ choice ∈ settings.choices, choice ∈ kept ∨ choice.IsDefault) ∧
    choices.Perm (kept ++ settings.subjectArgs.map .subjectArg)
  inOrder : choices.filterMap Setting.subjectArg? = settings.subjectArgs

/-- No option is chosen for twice, unless it may be given again. -/
def Unrepeated (choices : List Setting) : Prop :=
  choices.Pairwise fun first second => first.opt = second.opt → first.opt.spec.repeatable = true

namespace Expresses

variable {choices : List Setting} {settings : Settings} {choice : Setting}

theorem choice_of_mem (express : Expresses choices settings) (member : choice ∈ choices)
    (single : choice.opt ≠ .subjectArg) : settings.choice choice.opt = some choice := by
  obtain ⟨kept, among, -, permuted⟩ := express.rearranged
  rcases List.mem_append.mp (permuted.mem_iff.mp member) with left | argument
  · exact Settings.mem_choices_iff.mp (among.subset left)
  · obtain ⟨_, _, rfl⟩ := List.mem_map.mp argument
    exact absurd rfl single

/-- What is not said about an option is the default. -/
theorem default_of_silent (express : Expresses choices settings) {opt : Opt}
    (silent : ∀ choice ∈ choices, choice.opt ≠ opt) :
    ({} : Settings).choice opt = settings.choice opt := by
  obtain ⟨kept, -, complete, permuted⟩ := express.rearranged
  cases chose : settings.choice opt with
  | none => cases opt <;> first | rfl | cases chose
  | some choice =>
    have about := Settings.opt_of_choice chose
    have single : opt ≠ .subjectArg := by rintro rfl; cases chose
    rcases complete choice (Settings.mem_choices_iff.mpr (about ▸ chose)) with left | default
    · exact absurd about (silent choice (permuted.mem_iff.mpr (List.mem_append_left _ left)))
    · have chosen := Settings.choice_choose {} choice single
      rwa [default, if_pos about] at chosen

theorem unrepeated (express : Expresses choices settings) : Unrepeated choices := by
  obtain ⟨kept, among, -, permuted⟩ := express.rearranged
  have symmetric : ∀ {first second : Setting},
      (first.opt = second.opt → first.opt.spec.repeatable = true) →
      second.opt = first.opt → second.opt.spec.repeatable = true :=
    fun repeats same => same ▸ repeats same.symm
  rw [Unrepeated, permuted.pairwise_iff symmetric, List.pairwise_append]
  refine ⟨List.Pairwise.sublist among ?_, ?_, ?_⟩
  · -- Of the options of a run none is listed twice, and each settles one choice.
    have once : Scope.run.options.Pairwise (· ≠ ·) := by decide
    refine once.filterMap settings.choice fun first second differ one chose other chose' same => ?_
    rw [Settings.opt_of_choice chose, Settings.opt_of_choice chose'] at same
    exact absurd same differ
  · rw [List.pairwise_map]
    exact List.pairwise_of_forall fun _ _ _ => rfl
  · intro first left second argument same
    obtain ⟨_, _, rfl⟩ := List.mem_map.mp argument
    rw [same]; rfl

theorem filter (express : Expresses choices settings) {keep : Setting → Bool}
    (defaults : ∀ choice, keep choice = false → choice.IsDefault)
    (arguments : ∀ argument, keep (.subjectArg argument) = true) :
    Expresses (choices.filter keep) settings := by
  obtain ⟨kept, among, complete, permuted⟩ := express.rearranged
  refine ⟨⟨kept.filter keep, List.filter_sublist.trans among, ?_, ?_⟩, ?_⟩
  · intro choice member
    cases kept? : keep choice with
    | false => exact .inr (defaults choice kept?)
    | true =>
      exact (complete choice member).imp_left fun left => List.mem_filter.mpr ⟨left, kept?⟩
  · have all : (settings.subjectArgs.map Setting.subjectArg).filter keep =
        settings.subjectArgs.map Setting.subjectArg := by
      simp [List.filter_eq_self, arguments]
    simpa only [List.filter_append, all] using permuted.filter keep
  · rw [List.filterMap_filter, ← express.inOrder]
    congr 1
    funext choice
    cases choice with
    | subjectArg argument => simp [arguments]
    | _ => simp [Setting.subjectArg?]

/-- Choices that express settings make them of the defaults. -/
theorem ofChoices (express : Expresses choices settings) : Settings.ofChoices choices = settings :=
  Settings.foldl_choose_eq (fun _ => express.choice_of_mem)
    (fun _ _ => express.default_of_silent) express.inOrder

/-- Choices that express settings make them of the defaults for their subject, the choice of
    the subject apart. -/
theorem foldl_choose_subject (express : Expresses choices settings) :
    (choices.filter (·.opt ≠ .subject)).foldl Settings.choose { subject := settings.subject } =
      settings := by
  apply Settings.foldl_choose_eq
  · intro choice member
    exact express.choice_of_mem (List.mem_filter.mp member).1
  · intro opt single silent
    by_cases isSubject : opt = .subject
    · rw [isSubject]; rfl
    · have unsaid : ∀ choice ∈ choices, choice.opt ≠ opt := by
        rintro choice member rfl
        exact silent choice (List.mem_filter.mpr ⟨member, by simpa using isSubject⟩) rfl
      rw [← express.default_of_silent unsaid]
      cases opt <;> first | rfl | exact absurd rfl isSubject
  · have kept : ∀ choice : Setting, choice.opt = .subject → choice.subjectArg? = none := by
      rintro (_ | _) same <;> first | rfl | cases same
    rw [List.filterMap_filter, ← express.inOrder, List.nil_append]
    congr 1
    funext choice
    split
    · rfl
    · exact (kept choice (by simp_all)).symm

end Expresses

end Conformance
