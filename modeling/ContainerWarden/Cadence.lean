import ContainerWarden.Fault

namespace ContainerWarden

class Powers (τ : Type) where
  power? : τ → Nat → Option τ

/-- A power of finite numbers that is infinite has overflowed. -/
instance : Powers Float where
  power? base exponent :=
    let result := base.pow (Number.ofInt exponent)
    if result.isInf && base.isFinite then none else some result

structure Cadence (τ : Type) where
  min : τ
  max : τ
  factor : τ
  attempt : Nat := 0
  deriving Repr

namespace Cadence

variable {τ : Type} [OfNat τ 0] [OfNat τ 1] [Mul τ] [LT τ] [LE τ] [DecidableLT τ] [DecidableLE τ]

def greater (a b : τ) : τ := if a < b then b else a

def lesser (a b : τ) : τ := if b < a then b else a

def make (min max factor : τ) : Outcome (Cadence τ) :=
  if min ≤ 0 then .error .intervalNotPositive
  else if factor < 1 then .error .factorBelowOne
  else .ok { min, max := greater min max, factor }

def next [Powers τ] (cadence : Cadence τ) : Outcome (τ × Cadence τ) :=
  match Powers.power? cadence.factor cadence.attempt with
  | none => .error .powerOverflow
  | some power =>
    let wait := lesser cadence.max (cadence.min * power)
    if wait < cadence.max ∧ 1 < cadence.factor then
      .ok (wait, { cadence with attempt := cadence.attempt + 1 })
    else .ok (wait, cadence)

end Cadence

end ContainerWarden
