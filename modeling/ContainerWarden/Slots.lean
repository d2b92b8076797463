namespace ContainerWarden

structure Slots where
  total : Nat
  free : Nat
  refused : Bool := false
  deriving DecidableEq, Repr

namespace Slots

def allFree (total : Nat) : Slots := { total, free := total }

def take? (slots : Slots) : Option Slots :=
  if slots.free = 0 then none else some { slots with free := slots.free - 1 }

def giveBack (slots : Slots) : Slots :=
  if slots.free < slots.total then { slots with free := slots.free + 1 }
  else { slots with refused := true }

structure Held (slots : Slots) (holders : Nat) : Prop where
  sum : slots.free + holders = slots.total
  never : slots.refused = false

theorem held_allFree (total : Nat) : (allFree total).Held 0 := ⟨rfl, rfl⟩

theorem take?_eq_none {slots : Slots} : slots.take? = none ↔ slots.free = 0 := by
  simp [take?]

theorem Held.take {slots taken : Slots} {holders : Nat} (held : slots.Held holders)
    (took : slots.take? = some taken) : taken.Held (holders + 1) ∧ taken.total = slots.total := by
  unfold take? at took
  split at took
  · cases took
  · rename_i some
    cases took
    have sum := held.sum
    exact ⟨⟨by dsimp only; omega, held.never⟩, rfl⟩

theorem Held.giveBack_eq {slots : Slots} {holders : Nat} (held : slots.Held (holders + 1)) :
    slots.giveBack = { slots with free := slots.free + 1 } := by
  have sum := held.sum
  exact if_pos (by omega)

theorem Held.giveBack {slots : Slots} {holders : Nat} (held : slots.Held (holders + 1)) :
    slots.giveBack.Held holders := by
  have sum := held.sum
  rw [held.giveBack_eq]
  exact ⟨by dsimp only; omega, held.never⟩

theorem total_giveBack (slots : Slots) : slots.giveBack.total = slots.total := by
  unfold Slots.giveBack
  split <;> rfl

theorem free_le_giveBack (slots : Slots) : slots.free ≤ slots.giveBack.free := by
  unfold Slots.giveBack
  split
  · exact Nat.le_succ _
  · exact Nat.le_refl _

end Slots

end ContainerWarden
