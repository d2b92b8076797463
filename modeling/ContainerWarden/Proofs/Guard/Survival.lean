import ContainerWarden.Proofs.Cadence.Quantity
import ContainerWarden.Proofs.Guard.Rounds

namespace ContainerWarden.Guard

open Quantity (number infinite notANumber)

variable {min max factor : Quantity} {cadence : Cadence Quantity}

/-- A guard that is given waits it can take, all of them above zero and none above the bound. No rest ends
    it: it goes through its rounds until a check tells it to stop. -/
structure Survives (cadence : Cadence Quantity) (bound : Quantity) : Prop where
  waits : ∀ n, ∃ seconds : ℚ, cadence.waitAt n = number seconds ∧ 0 < seconds ∧
    number seconds ≤ bound
  given : ∀ n trace outcome, (nextWait (cadence.after n)).Runs trace outcome →
    (∀ exchange ∈ trace, isGranted exchange = true) →
    outcome = .ok (cadence.waitAt n, cadence.after (n + 1))
  lasts : ∀ settings limit trace outcome, (run settings limit cadence).Runs trace outcome →
    (∀ exchange ∈ trace, isGranted exchange = true) →
    ∃ passes stops later, trace = ⟨.log beginning, .ok ()⟩ :: later ∧
      Course Quantity.nearest settings limit cadence passes stops later outcome

/-- A guard that is given waits which nothing can rest for. Its first rest ends it, after a single pass,
    unless it is told to stop before. -/
structure Dies (cadence : Cadence Quantity) : Prop where
  waits : ∀ n, ¬ (cadence.waitAt n).IsNumber
  ends : ∀ settings limit trace outcome, (run settings (limit + 1) cadence).Runs trace outcome →
    (∀ exchange ∈ trace, isGranted exchange = true) →
    (trace = [⟨.log beginning, .ok ()⟩, ⟨.stopping, true⟩] ∧ outcome = .ok cadence) ∨
      ∃ own reached, (Duplicate.pass settings).Runs own reached ∧
        trace = ⟨.log beginning, .ok ()⟩ :: ⟨.stopping, false⟩ :: round cadence own reached ∧
        outcome = .error (cadence.waitAt 0).unrestable

theorem intervalRows_eq_nil (cadence : Cadence Quantity) : intervalRows cadence = [] := by
  have known : Powers.power? cadence.factor cadence.attempt =
      some (cadence.factor.power cadence.attempt) := rfl
  rw [intervalRows, Cadence.next_of_power known]

theorem nextWait_given (cadence : Cadence Quantity) (n : Nat) {trace : List Exchange}
    {outcome : Outcome (Quantity × Cadence Quantity)}
    (run : (nextWait (cadence.after n)).Runs trace outcome)
    (granted : ∀ exchange ∈ trace, isGranted exchange = true) :
    outcome = .ok (cadence.waitAt n, cadence.after (n + 1)) := by
  obtain ⟨-, same⟩ := nextWait_exchanges run granted
  rw [same, Cadence.after_succ]
  rfl

theorem waits_of_number {q m : ℚ} {factor : Quantity} (positive : 0 < q) (grown : ¬ factor < 1) (n : Nat) :
    ∃ seconds : ℚ, Cadence.waitAt ⟨number q, Cadence.greater (number q) (number m), factor, 0⟩ n =
        number seconds ∧ 0 < seconds ∧
      number seconds ≤ Cadence.greater (number q) (number m) := by
  -- The maximum that is kept is one of the two, and both are numbers.
  obtain ⟨cap, same, room⟩ : ∃ cap : ℚ,
      Cadence.greater (number q) (number m) = number cap ∧ q ≤ cap := by
    unfold Cadence.greater
    split
    · rename_i less
      have below : q < m := Quantity.number_lt_number.mp less
      exact ⟨m, rfl, below.le⟩
    · exact ⟨q, rfl, le_rfl⟩
  rw [same, Cadence.waitAt_eq_lesser]
  obtain ⟨seconds, least, above, below⟩ :=
    Cadence.lesser_number positive room (Quantity.not_power_lt_one grown _)
  exact ⟨seconds, least, above, Quantity.number_le_number.mpr below⟩

theorem survives_of_waits {bound : Quantity}
    (waits : ∀ n, ∃ seconds : ℚ, cadence.waitAt n = number seconds ∧ 0 < seconds ∧
      number seconds ≤ bound) : Survives cadence bound where
  waits := waits
  given n trace outcome run granted := nextWait_given cadence n run granted
  lasts settings limit trace outcome run granted := by
    have rests : ∀ n, Seconds.rest (cadence.waitAt n) = Job.rest (cadence.waitAt n).nearest := by
      intro n
      obtain ⟨seconds, same, -⟩ := waits n
      rw [same]
      rfl
    obtain ⟨later, split, looping⟩ := run_exchanges run granted
    subst split
    have others := (List.forall_mem_cons.mp granted).2
    obtain ⟨passes, stops, course⟩ := loop_course looping rests others
    exact ⟨passes, stops, later, rfl, course⟩

theorem dies_of_waits (waits : ∀ n, ¬ (cadence.waitAt n).IsNumber) : Dies cadence where
  waits := waits
  ends settings limit trace outcome run granted := by
    obtain ⟨later, split, looping⟩ := run_exchanges run granted
    subst split
    have others := (List.forall_mem_cons.mp granted).2
    rcases loop_exchanges looping others with ⟨stopped, same⟩ | ⟨own, reached, rest, passed, going, resting⟩
    · exact .inl ⟨by rw [stopped], same⟩
    · have refused : Seconds.rest cadence.wait.1 = throw cadence.wait.1.unrestable := by
        cases wait : cadence.wait.1 with
        | number value => exact absurd ⟨value, wait⟩ (waits 0)
        | infinite | notANumber => rfl
      rw [refused] at resting
      obtain ⟨rfl, same⟩ := Job.runs_throw.mp resting
      exact .inr ⟨own, reached, passed, by rw [going, List.append_nil], same⟩

/-- Whatever its first pass comes to, a guard that cannot take its first wait ends with it. -/
theorem runs_of_unrestable {settings : Settings} {limit : Nat} {own : List Exchange}
    {reached : Outcome (List Json)} (first : ¬ (cadence.waitAt 0).IsNumber)
    (passed : (Duplicate.pass settings).Runs own reached) :
    (run settings (limit + 1) cadence).Runs
      (⟨.log beginning, .ok ()⟩ :: ⟨.stopping, false⟩ :: round cadence own reached)
      (.error (cadence.waitAt 0).unrestable) := by
  have refused : (Seconds.rest cadence.wait.1).Runs [] (.error (cadence.waitAt 0).unrestable) := by
    unfold Cadence.waitAt Cadence.after at first ⊢
    cases wait : cadence.wait.1 with
    | number value => exact absurd ⟨value, wait⟩ first
    | infinite | notANumber => exact Job.runs_throw.mpr ⟨rfl, rfl⟩
  have resting : (Seconds.rest cadence.wait.1 >>= fun _ => loop settings limit cadence.wait.2).Runs []
      (.error (cadence.waitAt 0).unrestable) := Job.runs_bind.mpr (.inr ⟨_, refused, rfl⟩)
  have ticked : (tick settings cadence).Runs (round cadence own reached) (.ok cadence.wait) := tick_runs passed
  rw [← List.append_nil (round cadence own reached)]
  apply Job.runs_then (Job.runs_log.mpr rfl)
  apply Job.runs_then (stopping_runs false)
  exact Job.runs_then ticked resting

theorem waits_of_special {m : Quantity} (special : min = infinite false ∨ min = notANumber)
    (finite : m.IsNumber) (grown : ¬ factor < 1) (n : Nat) :
    Cadence.waitAt ⟨min, Cadence.greater min m, factor, 0⟩ n = min := by
  obtain ⟨value, rfl⟩ := finite
  have powers := Quantity.not_power_lt_one grown
    (Cadence.after ⟨min, Cadence.greater min (number value), factor, 0⟩ n).attempt
  rw [Cadence.waitAt_eq_lesser]
  rcases special with rfl | rfl
  · exact Cadence.lesser_infinite powers
  · exact Cadence.lesser_notANumber _

/-- A cadence is accepted by comparisons which an infinite minimum passes, and one that is no number at all.
    Neither can be rested for, the latter by assumption; every other guard with a finite maximum survives. -/
theorem minimum_decides_survival (accepted : Cadence.make min max factor = .ok cadence)
    (finite : max.IsNumber) :
    (min.IsNumber → Survives cadence (Cadence.greater min max)) ∧
      (¬ min.IsNumber → (min = infinite false ∨ min = notANumber) ∧
        (∀ n, cadence.waitAt n = min) ∧ Dies cadence) := by
  obtain ⟨positive, grown, rfl⟩ := Cadence.make_eq_ok_iff.mp accepted
  constructor
  · rintro ⟨q, rfl⟩
    obtain ⟨m, rfl⟩ := finite
    have above : 0 < q := not_le.mp fun least => positive (Quantity.number_le_number.mpr least)
    exact survives_of_waits (waits_of_number above grown)
  · intro special
    have kind : min = infinite false ∨ min = notANumber := by
      rcases Quantity.cases_of_not_le_zero positive with ⟨q, same, -⟩ | endless | none
      · exact absurd ⟨q, same⟩ special
      · exact .inl endless
      · exact .inr none
    have waits := waits_of_special kind finite grown
    refine ⟨kind, waits, dies_of_waits fun n => ?_⟩
    rw [waits n]
    exact special

theorem minimum_decides_survival_of_default :
    ∃ cadence : Cadence Quantity,
      Cadence.make (number 1) (number 300) (number (3 / 2)) = .ok cadence ∧
      Survives cadence (Cadence.greater (number 1) (number 300)) := by
  have positive : ¬ number 1 ≤ 0 := by decide +kernel
  have growing : ¬ number (3 / 2) < 1 := by decide +kernel
  have accepted : Cadence.make (number 1) (number 300) (number (3 / 2)) = .ok
      ⟨number 1, Cadence.greater (number 1) (number 300), number (3 / 2), 0⟩ :=
    Cadence.make_eq_ok_iff.mpr ⟨positive, growing, rfl⟩
  exact ⟨_, accepted, (minimum_decides_survival accepted ⟨300, rfl⟩).1 ⟨1, rfl⟩⟩

/-- An infinite minimum is accepted, and the guard ends with its first rest though nothing told it to stop. -/
theorem infinite_minimum_ends_guard :
    ∃ cadence : Cadence Quantity,
      Cadence.make (infinite false) (number 300) (number (3 / 2)) = .ok cadence ∧
      ¬ (cadence.waitAt 0).IsNumber ∧
      ∃ trace fault, (run {} 1 cadence).Runs trace (.error fault) ∧
        (∀ exchange ∈ trace, isGranted exchange = true) ∧ ⟨.stopping, true⟩ ∉ trace := by
  have positive : ¬ infinite false ≤ 0 := by decide
  have growing : ¬ number (3 / 2) < 1 := by decide +kernel
  have accepted : Cadence.make (infinite false) (number 300) (number (3 / 2)) = .ok
      ⟨infinite false, Cadence.greater (infinite false) (number 300), number (3 / 2), 0⟩ :=
    Cadence.make_eq_ok_iff.mpr ⟨positive, growing, rfl⟩
  have first := waits_of_special (.inl rfl) ⟨300, rfl⟩ growing 0
  have unrestable : ¬ (Cadence.waitAt
      ⟨infinite false, Cadence.greater (infinite false) (number 300), number (3 / 2), 0⟩ 0).IsNumber := by
    rw [first]
    rintro ⟨_, impossible⟩
    cases impossible
  have listed : (Duplicate.pass {}).Runs [⟨.list true, .ok []⟩, ⟨.count .dedupPasses 1, ()⟩] (.ok []) :=
    .ask _ (.ask _ (.refl _))
  refine ⟨_, accepted, unrestable, _, _, runs_of_unrestable unrestable listed, ?_, ?_⟩
  · simp [round, checkRows, intervalRows_eq_nil, isGranted]
  · simp [round, checkRows, intervalRows_eq_nil]

end ContainerWarden.Guard
