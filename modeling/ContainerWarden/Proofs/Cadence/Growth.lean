import Mathlib.Algebra.Order.Archimedean.Basic
import Mathlib.Order.Bounds.Defs
import Mathlib.Order.Monotone.Defs
import Mathlib.Tactic.NormNum
import ContainerWarden.Proofs.Cadence.Waits

namespace ContainerWarden

instance : Powers ℚ where
  power? base exponent := some (base ^ exponent)

namespace Cadence

theorem greater_eq_max (a b : ℚ) : greater a b = Max.max a b := by
  unfold greater
  split
  · rename_i less
    exact (max_eq_right less.le).symm
  · rename_i least
    exact (max_eq_left (not_lt.mp least)).symm

theorem lesser_eq_min (a b : ℚ) : lesser a b = Min.min a b := by
  unfold lesser
  split
  · rename_i less
    exact (min_eq_right less.le).symm
  · rename_i least
    exact (min_eq_left (not_lt.mp least)).symm

theorem make_eq_ok {min max factor : ℚ} {cadence : Cadence ℚ} :
    make min max factor = .ok cadence ↔
      0 < min ∧ 1 ≤ factor ∧ cadence = { min, max := Max.max min max, factor } := by
  rw [make_eq_ok_iff, greater_eq_max, not_le, not_lt]

variable {cadence : Cadence ℚ}

def Reaches (cadence : Cadence ℚ) (exponent : ℕ) : Prop :=
  cadence.max ≤ cadence.min * cadence.factor ^ exponent

structure Growing (cadence : Cadence ℚ) : Prop where
  positive : 0 < cadence.min
  room : cadence.min ≤ cadence.max
  growing : 1 ≤ cadence.factor

namespace Growing

theorem product_mono (grows : cadence.Growing) {n m : ℕ} (le : n ≤ m) :
    cadence.min * cadence.factor ^ n ≤ cadence.min * cadence.factor ^ m := by
  have powers : cadence.factor ^ n ≤ cadence.factor ^ m := pow_le_pow_right₀ grows.growing le
  exact mul_le_mul_of_nonneg_left powers grows.positive.le

theorem reaches_mono (grows : cadence.Growing) {n m : ℕ} (le : n ≤ m) (reached : cadence.Reaches n) :
    cadence.Reaches m :=
  reached.trans (grows.product_mono le)

theorem min_le_product (grows : cadence.Growing) (n : ℕ) :
    cadence.min ≤ cadence.min * cadence.factor ^ n := by
  have first : cadence.min * cadence.factor ^ 0 = cadence.min := by rw [pow_zero, mul_one]
  have later := grows.product_mono (Nat.zero_le n)
  rwa [first] at later

end Growing

/-- The attempts that are counted after so many waits. They fall behind the waits only where no power
    makes a difference any more. -/
structure Counts (cadence : Cadence ℚ) (n attempt : ℕ) : Prop where
  le : attempt ≤ n
  behind : attempt < n → cadence.Reaches attempt ∨ cadence.factor = 1
  least : ∀ k, cadence.Reaches k → attempt ≤ k
  flat : cadence.factor = 1 → attempt = 0

theorem Counts.wait_eq {n attempt : ℕ} (grows : cadence.Growing) (counts : cadence.Counts n attempt) :
    Min.min cadence.max (cadence.min * cadence.factor ^ attempt) =
      Min.min cadence.max (cadence.min * cadence.factor ^ n) := by
  rcases counts.le.eq_or_lt with same | behind
  · rw [same]
  · rcases counts.behind behind with reached | flat
    · have later : cadence.Reaches n := grows.reaches_mono counts.le reached
      rw [min_eq_left reached, min_eq_left later]
    · rw [flat, one_pow, one_pow]

theorem Counts.stay {n attempt : ℕ} (counts : cadence.Counts n attempt)
    (full : cadence.Reaches attempt ∨ cadence.factor = 1) : cadence.Counts (n + 1) attempt where
  le := Nat.le_succ_of_le counts.le
  behind _ := full
  least := counts.least
  flat := counts.flat

theorem Counts.grow {n attempt : ℕ} (grows : cadence.Growing) (counts : cadence.Counts n attempt)
    (short : ¬ cadence.Reaches attempt) (rising : 1 < cadence.factor) :
    cadence.Counts (n + 1) (attempt + 1) := by
  -- Attempts that had fallen behind would mean that the growth is over.
  have level : attempt = n := by
    by_contra other
    rcases counts.behind (lt_of_le_of_ne counts.le other) with reached | flat
    · exact short reached
    · exact rising.ne' flat
  have least : ∀ k, cadence.Reaches k → attempt + 1 ≤ k := by
    intro k reached
    by_contra early
    exact short (grows.reaches_mono (by omega) reached)
  exact ⟨by omega, by omega, least, fun flat => absurd flat rising.ne'⟩

theorem next_eq (cadence : Cadence ℚ) :
    cadence.next = .ok (Min.min cadence.max (cadence.min * cadence.factor ^ cadence.attempt),
      if cadence.min * cadence.factor ^ cadence.attempt < cadence.max ∧ 1 < cadence.factor then
        { cadence with attempt := cadence.attempt + 1 }
      else cadence) := by
  have known : Powers.power? cadence.factor cadence.attempt =
      some (cadence.factor ^ cadence.attempt) := rfl
  rw [next_of_power known, lesser_eq_min]
  simp only [min_lt_iff, lt_irrefl, false_or]

theorem counts_after (grows : cadence.Growing) (fresh : cadence.attempt = 0) (n : ℕ) :
    cadence.Counts n (cadence.after n).attempt := by
  induction n with
  | zero =>
    rw [after, fresh]
    exact ⟨le_rfl, fun impossible => absurd impossible (lt_irrefl 0), fun k _ => Nat.zero_le k,
      fun _ => rfl⟩
  | succ n ih =>
    rw [after_succ, wait_of_next (next_eq _)]
    -- The powers of the cadence are those that it began with.
    obtain ⟨min, max, factor⟩ : (cadence.after n).min = cadence.min ∧
        (cadence.after n).max = cadence.max ∧ (cadence.after n).factor = cadence.factor := by
      rw [after_frame]
      exact ⟨rfl, rfl, rfl⟩
    rw [min, max, factor]
    split
    · rename_i more
      exact ih.grow grows (not_le.mpr more.1) more.2
    · rename_i full
      apply ih.stay
      by_cases reached : cadence.Reaches (cadence.after n).attempt
      · exact .inl reached
      · have least : cadence.factor ≤ 1 := not_lt.mp fun rising => full ⟨not_le.mp reached, rising⟩
        exact .inr (le_antisymm least grows.growing)

theorem next_after (grows : cadence.Growing) (fresh : cadence.attempt = 0) (n : ℕ) :
    (cadence.after n).next =
      .ok (Min.min cadence.max (cadence.min * cadence.factor ^ n), cadence.after (n + 1)) := by
  have counts := counts_after grows fresh n
  have same := cadence.after_frame n
  have computed := next_eq (cadence.after n)
  have value : (cadence.after n).min * (cadence.after n).factor ^ (cadence.after n).attempt =
      cadence.min * cadence.factor ^ (cadence.after n).attempt := by rw [same]
  have greatest : (cadence.after n).max = cadence.max := by rw [same]
  rw [after_succ, wait_of_next computed, computed, value, greatest, counts.wait_eq grows]

theorem waitAt_eq (grows : cadence.Growing) (fresh : cadence.attempt = 0) (n : ℕ) :
    cadence.waitAt n = Min.min cadence.max (cadence.min * cadence.factor ^ n) := by
  rw [waitAt, wait_of_next (next_after grows fresh n)]

theorem reaches_exists (grows : cadence.Growing) (rising : 1 < cadence.factor) :
    ∃ k, cadence.Reaches k := by
  obtain ⟨k, beyond⟩ := pow_unbounded_of_one_lt (cadence.max / cadence.min) rising
  have product : cadence.max < cadence.factor ^ k * cadence.min := (div_lt_iff₀ grows.positive).mp beyond
  refine ⟨k, ?_⟩
  rw [Reaches, mul_comm]
  exact product.le

theorem settled_after (grows : cadence.Growing) (fresh : cadence.attempt = 0)
    (rising : 1 < cadence.factor) {least n : ℕ} (first : IsLeast {k | cadence.Reaches k} least)
    (late : least ≤ n) : cadence.waitAt n = cadence.max ∧ (cadence.after n).attempt = least := by
  have counts := counts_after grows fresh n
  have reached : cadence.Reaches n := grows.reaches_mono late first.1
  constructor
  · rw [waitAt_eq grows fresh, min_eq_left reached]
  · have below : (cadence.after n).attempt ≤ least := counts.least least first.1
    apply le_antisymm below
    by_contra early
    have behind : (cadence.after n).attempt < n := by omega
    rcases counts.behind behind with there | flat
    · exact early (first.2 there)
    · exact rising.ne' flat

structure ClosedForm (min cap factor : ℚ) (cadence : Cadence ℚ) : Prop where
  next : ∀ n, (cadence.after n).next = .ok (Min.min cap (min * factor ^ n), cadence.after (n + 1))
  first : cadence.waitAt 0 = min
  monotone : Monotone cadence.waitAt
  bounds : ∀ n, min ≤ cadence.waitAt n ∧ cadence.waitAt n ≤ cap
  settles : 1 < factor → ∃ least, IsLeast {k | cap ≤ min * factor ^ k} least ∧
    (∀ n, (cadence.after n).attempt ≤ least) ∧
    ∀ n, least ≤ n → cadence.waitAt n = cap ∧ (cadence.after n).attempt = least
  flat : factor = 1 → ∀ n, cadence.waitAt n = min ∧ (cadence.after n).attempt = 0

theorem closedForm_of_growing (grows : cadence.Growing) (fresh : cadence.attempt = 0) :
    ClosedForm cadence.min cadence.max cadence.factor cadence where
  next := next_after grows fresh
  first := by
    rw [waitAt_eq grows fresh, pow_zero, mul_one]
    exact min_eq_right grows.room
  monotone := by
    intro n m le
    rw [waitAt_eq grows fresh, waitAt_eq grows fresh]
    exact min_le_min_left _ (grows.product_mono le)
  bounds n := by
    rw [waitAt_eq grows fresh]
    exact ⟨le_min grows.room (grows.min_le_product n), min_le_left _ _⟩
  settles rising := by
    classical
    have reached := reaches_exists grows rising
    have least : IsLeast {k | cadence.Reaches k} (Nat.find reached) :=
      ⟨Nat.find_spec reached, fun k there => Nat.find_min' reached there⟩
    refine ⟨Nat.find reached, least, ?_, ?_⟩
    · intro n
      exact (counts_after grows fresh n).least _ least.1
    · intro n late
      exact settled_after grows fresh rising least late
  flat same n := by
    constructor
    · rw [waitAt_eq grows fresh, same, one_pow, mul_one]
      exact min_eq_right grows.room
    · exact (counts_after grows fresh n).flat same

/-- What is accepted as a cadence grows by its factor, although the attempts are not counted further once
    the maximum is reached. -/
theorem waits_grow_to_cap (min max factor : ℚ) :
    ((∃ cadence, make min max factor = .ok cadence) ↔ 0 < min ∧ 1 ≤ factor) ∧
      ∀ cadence, make min max factor = .ok cadence →
        ClosedForm min (Max.max min max) factor cadence := by
  constructor
  · constructor
    · rintro ⟨cadence, made⟩
      obtain ⟨positive, growing, -⟩ := make_eq_ok.mp made
      exact ⟨positive, growing⟩
    · rintro ⟨positive, growing⟩
      exact ⟨_, make_eq_ok.mpr ⟨positive, growing, rfl⟩⟩
  · intro cadence made
    obtain ⟨positive, growing, rfl⟩ := make_eq_ok.mp made
    have grows : Growing { min, max := Max.max min max, factor } :=
      ⟨positive, le_max_left min max, growing⟩
    exact closedForm_of_growing grows rfl

theorem waits_grow_to_cap_of_default :
    ∃ cadence, make (1 : ℚ) 300 (3 / 2) = .ok cadence ∧ ClosedForm 1 300 (3 / 2) cadence ∧
      cadence.waitAt 3 = 27 / 8 ∧ cadence.waitAt 20 = 300 := by
  obtain ⟨accepts, follows⟩ := waits_grow_to_cap 1 300 (3 / 2)
  obtain ⟨cadence, made⟩ := accepts.mpr ⟨by norm_num, by norm_num⟩
  have closed := follows cadence made
  have cap : Max.max (1 : ℚ) 300 = 300 := by norm_num
  rw [cap] at closed
  refine ⟨cadence, made, closed, ?_, ?_⟩
  · rw [waitAt, wait_of_next (closed.next 3)]
    norm_num
  · rw [waitAt, wait_of_next (closed.next 20)]
    norm_num

end Cadence

end ContainerWarden
