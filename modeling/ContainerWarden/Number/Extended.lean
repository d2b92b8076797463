import ContainerWarden.Number.Shortest

namespace ContainerWarden.Number

structure Extended where
  significand : Nat
  exponent : Int
  deriving DecidableEq, Repr

namespace Extended

def rounded (bits num den : Nat) : Extended :=
  if num == 0 then ⟨0, 0⟩
  else
    let unit : Int := binaryExponent num den - (bits - 1 : Nat)
    ⟨roundHalfEven (num * twoTo (-unit).toNat) (den * twoTo unit.toNat), unit⟩

def nearest (num den : Nat) : Extended := rounded 64 num den

def double (num den : Nat) : Extended := rounded 53 num den

def quotient (x : Extended) : Nat × Nat :=
  (x.significand * twoTo x.exponent.toNat, twoTo (-x.exponent).toNat)

def ofBinary (x : Binary) : Extended := ⟨x.significand, x.exponent⟩

def isAtMost (x y : Extended) : Bool :=
  x.quotient.1 * y.quotient.2 ≤ y.quotient.1 * x.quotient.2

def product (x y : Extended) : Nat × Nat :=
  (x.quotient.1 * y.quotient.1, x.quotient.2 * y.quotient.2)

def mul (x y : Extended) : Extended := nearest (x.product y).1 (x.product y).2

def div (x y : Extended) : Extended :=
  nearest (x.quotient.1 * y.quotient.2) (x.quotient.2 * y.quotient.1)

def add (x y : Extended) : Extended :=
  nearest (x.quotient.1 * y.quotient.2 + y.quotient.1 * x.quotient.2)
    (x.quotient.2 * y.quotient.2)

def floor (x : Extended) : Nat := x.quotient.1 / x.quotient.2

def nextPlace (x : Extended) : Extended :=
  nearest (x.quotient.1 % x.quotient.2 * 10) x.quotient.2

def ten (exponent : Nat) : Extended := double (tenTo exponent) 1

def tenth (exponent : Nat) : Extended := double 1 (tenTo exponent)

structure Scaled where
  value : Extended
  exponent : Int

/-- Raises a scale by a power of ten as long as it stays at or below a value. The first argument bounds
    the steps. -/
def raiseScale (value : Extended) (power : Nat) : Nat → Scaled → Scaled
  | 0, scale => scale
  | fuel + 1, scale =>
    let next := scale.value.mul (ten power)
    if next.isAtMost value then raiseScale value power fuel ⟨next, scale.exponent + power⟩ else scale

def raiseValue (bound : Extended) (power : Nat) : Nat → Scaled → Scaled
  | 0, scaled => scaled
  | fuel + 1, scaled =>
    if bound.isAtMost scaled.value then scaled
    else raiseValue bound power fuel ⟨scaled.value.mul (ten power), scaled.exponent - power⟩

def one : Extended := ⟨1, 0⟩

def normalized (x : Extended) : Scaled :=
  let scale := raiseScale x 1 10 (raiseScale x 10 10 (raiseScale x 100 4 ⟨one, 0⟩))
  raiseValue one 1 10 (raiseValue (tenth 8) 8 50 ⟨x.div scale.value, scale.exponent⟩)

def halfUnit (places : Nat) : Extended :=
  let (num, den) := (double 5 (tenTo (places - 10))).product (tenth 10)
  double num den

def digits : Nat → Extended → Nat → Nat
  | 0, _, found => found
  | places + 1, x, found => digits places x.nextPlace (10 * found + x.floor)

end Extended

/-- A positive double in a count of significant digits. Half a unit is added and the rest cut off, with
    64 bits at each step, so a value halfway between two decimals may go either way. -/
def Binary.significant (x : Binary) (places : Nat) : Decimal :=
  let scaled := (Extended.ofBinary x).normalized
  let raised := scaled.value.add (Extended.halfUnit places)
  let (value, exponent) :=
    if (Extended.ten 1).isAtMost raised then (raised.mul (Extended.tenth 1), scaled.exponent + 1)
    else (raised, scaled.exponent)
  Decimal.trimZeros (places + 1) ⟨value.digits places 0, exponent - (places - 1 : Nat)⟩

end ContainerWarden.Number
