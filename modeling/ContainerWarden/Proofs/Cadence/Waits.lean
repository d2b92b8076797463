import ContainerWarden.Cadence

namespace ContainerWarden.Cadence

variable {τ : Type} [OfNat τ 1] [Mul τ] [LT τ] [DecidableLT τ] [Powers τ] {cadence : Cadence τ}

/-- The wait that comes next and the cadence after it. Where none can be computed it is the maximum,
    and the cadence stays as it is. -/
def wait (cadence : Cadence τ) : τ × Cadence τ :=
  match cadence.next with
  | .ok next => next
  | .error _ => (cadence.max, cadence)

def after (cadence : Cadence τ) : Nat → Cadence τ
  | 0 => cadence
  | n + 1 => cadence.wait.2.after n

def waitAt (cadence : Cadence τ) (n : Nat) : τ := (cadence.after n).wait.1

theorem next_of_power {power : τ} (known : Powers.power? cadence.factor cadence.attempt = some power) :
    cadence.next = .ok (lesser cadence.max (cadence.min * power),
      if lesser cadence.max (cadence.min * power) < cadence.max ∧ 1 < cadence.factor then
        { cadence with attempt := cadence.attempt + 1 }
      else cadence) := by
  simp only [next, known]
  split <;> rfl

theorem wait_of_next {next : τ × Cadence τ} (computed : cadence.next = .ok next) :
    cadence.wait = next := by
  rw [wait, computed]

theorem wait_of_failed {fault : Fault} (failed : cadence.next = .error fault) :
    cadence.wait = (cadence.max, cadence) := by
  rw [wait, failed]

theorem wait_frame (cadence : Cadence τ) :
    cadence.wait.2 = { cadence with attempt := cadence.wait.2.attempt } := by
  cases known : Powers.power? cadence.factor cadence.attempt with
  | none =>
    have failed : cadence.next = .error .powerOverflow := by simp only [next, known]
    rw [wait_of_failed failed]
  | some power =>
    rw [wait_of_next (next_of_power known)]
    split <;> rfl

theorem after_succ (cadence : Cadence τ) (n : Nat) :
    cadence.after (n + 1) = (cadence.after n).wait.2 := by
  induction n generalizing cadence with
  | zero => rfl
  | succ n ih => exact ih cadence.wait.2

theorem after_add (cadence : Cadence τ) (n m : Nat) :
    cadence.after (n + m) = (cadence.after n).after m := by
  induction n generalizing cadence with
  | zero => rw [Nat.zero_add, after]
  | succ n ih =>
    rw [Nat.add_right_comm]
    exact ih cadence.wait.2

theorem after_frame (cadence : Cadence τ) (n : Nat) :
    cadence.after n = { cadence with attempt := (cadence.after n).attempt } := by
  induction n with
  | zero => rfl
  | succ n ih =>
    rw [after_succ, wait_frame, ih]

/-- A cadence that cannot compute its wait stays so, for nothing changes it. -/
theorem after_of_failed {fault : Fault} (failed : cadence.next = .error fault) (n : Nat) :
    cadence.after n = cadence := by
  induction n with
  | zero => rfl
  | succ n ih => rw [after_succ, ih, wait_of_failed failed]

theorem stuck_of_failed {fault : Fault} {n : Nat} (failed : (cadence.after n).next = .error fault)
    (m : Nat) : cadence.waitAt (n + m) = cadence.max ∧ cadence.after (n + m) = cadence.after n := by
  have stays : cadence.after (n + m) = cadence.after n := by
    rw [after_add, after_of_failed failed]
  have greatest : (cadence.after n).max = cadence.max := by rw [after_frame]
  refine ⟨?_, stays⟩
  rw [waitAt, stays, wait_of_failed failed, greatest]

theorem make_eq_ok_iff {τ : Type} [OfNat τ 0] [OfNat τ 1] [LT τ] [LE τ] [DecidableLT τ] [DecidableLE τ]
    {min max factor : τ} {cadence : Cadence τ} :
    make min max factor = .ok cadence ↔
      ¬ min ≤ 0 ∧ ¬ factor < 1 ∧ cadence = { min, max := greater min max, factor } := by
  unfold make
  split
  · rename_i least
    simp [least]
  · rename_i positive
    split
    · rename_i shrinking
      simp [shrinking]
    · rename_i growing
      simp [positive, growing, eq_comm]

end ContainerWarden.Cadence
