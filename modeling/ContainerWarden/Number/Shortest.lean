import ContainerWarden.Number.Binary

namespace ContainerWarden.Number

structure Decimal where
  digits : Nat
  exponent : Int
  deriving DecidableEq, Repr

def decimalText (n : Nat) : List Char :=
  Nat.toDigits 10 n

def decimalExponent (num den : Nat) : Int :=
  if den ≤ num then (decimalText (num / den)).length - 1
  else
    let places := (decimalText (den / num)).length - 1
    if den ≤ num * tenTo places then -(places : Int) else -(places + 1 : Int)

def Decimal.trimZeros : Nat → Decimal → Decimal
  | 0, d => d
  | fuel + 1, d =>
    if d.digits != 0 && d.digits % 10 == 0 then trimZeros fuel ⟨d.digits / 10, d.exponent + 1⟩ else d

/-- Of the two neighbours of `x` on the grid of `10 ^ unit`, one that `x` is the nearest double to. -/
def Binary.onGrid? (x : Binary) (unit : Int) : Option Decimal :=
  let gap := twoTo x.exponent.toNat * tenTo (-unit).toNat
  let num := x.significand * gap
  let den := twoTo (-x.exponent).toNat * tenTo unit.toNat
  let below := num / den
  let down := num % den
  let up := den - down
  let within (distance reach : Nat) : Bool :=
    if x.significand % 2 == 0 then distance ≤ reach else distance < reach
  let narrow := x.significand == twoTo 52 && x.exponent != -1074
  let lower := if narrow then within (4 * down) gap else within (2 * down) gap
  let upper := within (2 * up) gap
  let nearerUp := up < down || (up == down && below % 2 == 1)
  if lower && !(upper && nearerUp) then some ⟨below, unit⟩
  else if upper then some ⟨below + 1, unit⟩
  else none

/-- The fewest digits that read back as the given positive double, and the nearest such. -/
def Binary.shortest (x : Binary) : Decimal :=
  let lead := decimalExponent x.quotient.1 x.quotient.2
  match (List.range 17).findSome? fun (places : Nat) => x.onGrid? (lead - places) with
  | some d => d.trimZeros 20
  | none => ⟨0, 0⟩

end ContainerWarden.Number
