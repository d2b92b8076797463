import Mathlib.Algebra.Order.Ring.Rat
import Mathlib.Tactic.Linarith
import ContainerWarden.Guard
import ContainerWarden.Proofs.Cadence.Waits

namespace ContainerWarden

inductive Quantity where
  | number (value : ℚ)
  | infinite (negative : Bool)
  | notANumber

namespace Quantity

def isLess : Quantity → Quantity → Bool
  | number x, number y => x < y
  | number _, infinite negative => !negative
  | infinite negative, number _ => negative
  | infinite negative, infinite other => negative && !other
  | _, _ => false

def isAtMost : Quantity → Quantity → Bool
  | number x, number y => x ≤ y
  | number _, infinite negative => !negative
  | infinite negative, number _ => negative
  | infinite negative, infinite other => negative || !other
  | _, _ => false

def times : Quantity → Quantity → Quantity
  | number x, number y => number (x * y)
  | number x, infinite negative => if x = 0 then notANumber else infinite (decide (x < 0) != negative)
  | infinite negative, number x => if x = 0 then notANumber else infinite (decide (x < 0) != negative)
  | infinite negative, infinite other => infinite (negative != other)
  | _, _ => notANumber

/-- The power to nothing is one, also of what is no number. -/
def power (base : Quantity) : Nat → Quantity
  | 0 => number 1
  | n + 1 => (base.power n).times base

def nearest : Quantity → Float
  | number x => Number.nearest (x < 0) x.num.natAbs x.den
  | infinite negative => if negative then -Number.infinity else Number.infinity
  | notANumber => Number.notANumber

instance : LT Quantity := ⟨fun x y => x.isLess y = true⟩

instance : LE Quantity := ⟨fun x y => x.isAtMost y = true⟩

instance : DecidableLT Quantity := fun x y => inferInstanceAs (Decidable (x.isLess y = true))

instance : DecidableLE Quantity := fun x y => inferInstanceAs (Decidable (x.isAtMost y = true))

instance : OfNat Quantity 0 := ⟨number 0⟩

instance : OfNat Quantity 1 := ⟨number 1⟩

instance : Mul Quantity := ⟨times⟩

def unrestable : Quantity → Fault
  | notANumber => .reported .valueError "Invalid value NaN (not a number)"
  | _ => .reported .overflowError "timeout value is too large"

/-- Only a number of seconds can be rested. That a rest fails for what is no number is an assumption: a
    platform may as well come back from it at once. -/
def rest : Quantity → Job Unit
  | number x => Job.rest (nearest (number x))
  | other => throw other.unrestable

instance : Seconds Quantity where
  power? base exponent := some (base.power exponent)
  shown quantity := .float quantity.nearest
  written quantity := Number.written quantity.nearest
  rest := rest

def IsNumber (quantity : Quantity) : Prop := ∃ value, quantity = number value

variable {x y : Quantity}

theorem number_lt_number {x y : ℚ} : number x < number y ↔ x < y := decide_eq_true_iff

theorem number_le_number {x y : ℚ} : number x ≤ number y ↔ x ≤ y := decide_eq_true_iff

theorem number_mul_number (x y : ℚ) : number x * number y = number (x * y) := rfl

theorem number_mul_infinite {x : ℚ} (positive : 0 < x) : number x * infinite false = infinite false := by
  show (if x = 0 then notANumber else infinite (decide (x < 0) != false)) = _
  rw [if_neg positive.ne', decide_eq_false (not_lt.mpr positive.le)]
  rfl

theorem infinite_mul_number {x : ℚ} (positive : 0 < x) : infinite false * number x = infinite false := by
  show (if x = 0 then notANumber else infinite (decide (x < 0) != false)) = _
  rw [if_neg positive.ne', decide_eq_false (not_lt.mpr positive.le)]
  rfl

theorem mul_notANumber (x : Quantity) : x * notANumber = notANumber := by
  cases x <;> rfl

theorem notANumber_mul (x : Quantity) : notANumber * x = notANumber := by
  cases x <;> rfl

theorem not_notANumber_lt (x : Quantity) : ¬ notANumber < x := by
  intro less
  cases x <;> cases less

theorem cases_of_not_lt_one (grown : ¬ x < 1) :
    (∃ value, x = number value ∧ 1 ≤ value) ∨ x = infinite false ∨ x = notANumber := by
  cases x with
  | number value =>
    have least : 1 ≤ value := not_lt.mp fun less => grown (number_lt_number.mpr less)
    exact .inl ⟨value, rfl, least⟩
  | infinite negative =>
    cases negative with
    | true => exact absurd rfl grown
    | false => exact .inr (.inl rfl)
  | notANumber => exact .inr (.inr rfl)

theorem cases_of_not_le_zero (positive : ¬ x ≤ 0) :
    (∃ value, x = number value ∧ 0 < value) ∨ x = infinite false ∨ x = notANumber := by
  cases x with
  | number value =>
    have above : 0 < value := not_le.mp fun least => positive (number_le_number.mpr least)
    exact .inl ⟨value, rfl, above⟩
  | infinite negative =>
    cases negative with
    | true => exact absurd rfl positive
    | false => exact .inr (.inl rfl)
  | notANumber => exact .inr (.inr rfl)

theorem not_mul_lt_one (first : ¬ x < 1) (second : ¬ y < 1) : ¬ x * y < 1 := by
  -- No product of these is of nothing and an infinity, or of opposite signs.
  rcases cases_of_not_lt_one first with ⟨p, rfl, least⟩ | rfl | rfl
  · rcases cases_of_not_lt_one second with ⟨q, rfl, also⟩ | rfl | rfl
    · rw [number_mul_number]
      intro less
      have below : p * q < 1 := number_lt_number.mp less
      nlinarith
    · rw [number_mul_infinite (by linarith)]
      exact nofun
    · rw [mul_notANumber]
      exact not_notANumber_lt 1
  · rcases cases_of_not_lt_one second with ⟨q, rfl, also⟩ | rfl | rfl
    · rw [infinite_mul_number (by linarith)]
      exact nofun
    · exact nofun
    · exact not_notANumber_lt 1
  · rw [notANumber_mul]
    exact not_notANumber_lt 1

theorem not_power_lt_one (grown : ¬ x < 1) (n : ℕ) : ¬ x.power n < 1 := by
  induction n with
  | zero =>
    intro less
    exact lt_irrefl (1 : ℚ) (number_lt_number.mp less)
  | succ n ih => exact not_mul_lt_one ih grown

end Quantity

namespace Cadence

open Quantity (number infinite notANumber)

variable {cadence : Cadence Quantity}

theorem waitAt_eq_lesser (cadence : Cadence Quantity) (n : ℕ) :
    cadence.waitAt n =
      lesser cadence.max (cadence.min * cadence.factor.power (cadence.after n).attempt) := by
  have known : Powers.power? (cadence.after n).factor (cadence.after n).attempt =
      some ((cadence.after n).factor.power (cadence.after n).attempt) := rfl
  rw [waitAt, wait_of_next (next_of_power known), after_frame]

theorem lesser_number {q m : ℚ} {x : Quantity} (positive : 0 < q) (room : q ≤ m) (grown : ¬ x < 1) :
    ∃ w, lesser (number m) (number q * x) = number w ∧ 0 < w ∧ w ≤ m := by
  rcases Quantity.cases_of_not_lt_one grown with ⟨p, rfl, least⟩ | rfl | rfl
  · rw [Quantity.number_mul_number, lesser]
    split
    · rename_i less
      have below : q * p < m := Quantity.number_lt_number.mp less
      exact ⟨q * p, rfl, by positivity, below.le⟩
    · exact ⟨m, rfl, by linarith, le_rfl⟩
  · rw [Quantity.number_mul_infinite positive]
    exact ⟨m, rfl, by linarith, le_rfl⟩
  · rw [Quantity.mul_notANumber]
    exact ⟨m, rfl, by linarith, le_rfl⟩

theorem lesser_infinite {x : Quantity} (grown : ¬ x < 1) :
    lesser (infinite false) (infinite false * x) = infinite false := by
  rcases Quantity.cases_of_not_lt_one grown with ⟨p, rfl, least⟩ | rfl | rfl
  · rw [Quantity.infinite_mul_number (by linarith)]
    rfl
  · rfl
  · rfl

theorem lesser_notANumber (x : Quantity) : lesser notANumber (notANumber * x) = notANumber := by
  rw [Quantity.notANumber_mul]
  rfl

end Cadence

end ContainerWarden
