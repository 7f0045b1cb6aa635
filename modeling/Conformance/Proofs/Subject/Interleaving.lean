/-! # Machines that take turns

A machine takes a turn or refuses it, and a list of turns is one interleaving of all who take
part.  The lists that a machine takes are those whose fold does not stop short; what holds at
the start and is kept by every turn holds after each of them.
-/

namespace Conformance.Interleaving

variable {σ τ : Type} {step : σ → τ → Option σ} {start last : σ} {turns : List τ}

theorem foldlM_cons_iff {turn : τ} :
    (turn :: turns).foldlM step start = some last ↔
      ∃ middle, step start turn = some middle ∧ turns.foldlM step middle = some last := by
  rw [List.foldlM_cons, Option.bind_eq_bind, Option.bind_eq_some_iff]

theorem foldlM_append_of {first : List τ} {middle : σ}
    (taken : first.foldlM step start = some middle) (second : List τ) :
    (first ++ second).foldlM step start = second.foldlM step middle := by
  rw [List.foldlM_append, taken]
  rfl

theorem foldlM_append_iff {first second : List τ} :
    (first ++ second).foldlM step start = some last ↔
      ∃ middle, first.foldlM step start = some middle ∧
        second.foldlM step middle = some last := by
  rw [List.foldlM_append, Option.bind_eq_bind, Option.bind_eq_some_iff]

theorem foldlM_concat {turn : τ} {next : σ} (taken : turns.foldlM step start = some last)
    (more : step last turn = some next) : (turns ++ [turn]).foldlM step start = some next :=
  foldlM_append_iff.mpr ⟨last, taken, foldlM_cons_iff.mpr ⟨next, more, rfl⟩⟩

/-- What holds at the start and is kept by every turn holds after every list of turns.  What is
    kept may speak of the turns so far. -/
theorem foldlM_induction {motive : List τ → σ → Prop} (begins : motive [] start)
    (keeps : ∀ {before state turn next}, before.foldlM step start = some state →
      motive before state → step state turn = some next → motive (before ++ [turn]) next)
    (taken : turns.foldlM step start = some last) : motive turns last := by
  have onwards : ∀ (more before : List τ) (state : σ), before.foldlM step start = some state →
      motive before state → more.foldlM step state = some last → motive (before ++ more) last := by
    intro more
    induction more with
    | nil =>
      intro before state _ holds rest
      cases rest
      simpa using holds
    | cons turn more ih =>
      intro before state reached holds rest
      obtain ⟨middle, first, rest⟩ := foldlM_cons_iff.mp rest
      have further := ih (before ++ [turn]) middle (foldlM_concat reached first)
        (keeps reached holds first) rest
      simpa using further
  exact onwards turns [] start rfl begins taken

end Conformance.Interleaving
