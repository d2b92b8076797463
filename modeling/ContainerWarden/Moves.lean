namespace ContainerWarden

def follow (step : σ → μ → Option σ) : σ → List μ → Option σ
  | state, [] => some state
  | state, move :: rest => (step state move).bind (follow step · rest)

variable {step : σ → μ → Option σ} {start last : σ}

theorem follow_append (before after : List μ) :
    follow step start (before ++ after) = (follow step start before).bind (follow step · after) := by
  induction before generalizing start with
  | nil => rfl
  | cons move rest ih =>
    simp only [List.cons_append, follow]
    cases step start move with
    | none => rfl
    | some next => exact ih

theorem follow_snoc {before : List μ} {move : μ} :
    follow step start (before ++ [move]) = some last ↔
      ∃ state, follow step start before = some state ∧ step state move = some last := by
  rw [follow_append, Option.bind_eq_some_iff]
  simp [follow]

/-- What holds at the start and is kept by each move holds in the end. It may speak of the moves that
    were made. -/
theorem follow_induction {motive : List μ → σ → Prop} (initial : motive [] start)
    (turn : ∀ before state move next, follow step start before = some state → motive before state →
      step state move = some next → motive (before ++ [move]) next)
    {moves : List μ} (run : follow step start moves = some last) : motive moves last := by
  suffices ∀ moves before state, follow step start before = some state → motive before state →
      follow step state moves = some last → motive (before ++ moves) last from
    this moves [] start rfl initial run
  intro moves
  induction moves with
  | nil =>
    intro before state _ holds ended
    cases ended
    rwa [List.append_nil]
  | cons move rest ih =>
    intro before state reached holds later
    obtain ⟨next, moved, later⟩ := Option.bind_eq_some_iff.mp later
    have further := ih (before ++ [move]) next (follow_snoc.mpr ⟨state, reached, moved⟩)
      (turn before state move next reached holds moved) later
    rwa [List.append_assoc] at further

end ContainerWarden
