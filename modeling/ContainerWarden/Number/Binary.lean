namespace ContainerWarden.Number

def twoTo (exponent : Nat) : Nat := Nat.pow 2 exponent

def tenTo (exponent : Nat) : Nat := Nat.pow 10 exponent

structure Binary where
  negative : Bool
  significand : Nat
  exponent : Int
  deriving DecidableEq, Repr

def Binary.ofFloat? (x : Float) : Option Binary :=
  let bits := x.toBits.toNat
  let field : Nat := bits / twoTo 52 % twoTo 11
  let fraction : Nat := bits % twoTo 52
  let negative := bits / twoTo 63 == 1
  if field == 0x7FF then none
  else if field == 0 then some ⟨negative, fraction, -1074⟩
  else some ⟨negative, twoTo 52 + fraction, (field : Int) - 1075⟩

def Binary.quotient (x : Binary) : Nat × Nat :=
  (x.significand * twoTo x.exponent.toNat, twoTo (-x.exponent).toNat)

/-- The exponent `e` with `2 ^ e ≤ num / den < 2 ^ (e + 1)`, for positive `num` and `den`. -/
def binaryExponent (num den : Nat) : Int :=
  let estimate : Int := num.log2 - den.log2
  if den * twoTo estimate.toNat ≤ num * twoTo (-estimate).toNat then estimate else estimate - 1

def roundHalfEven (num den : Nat) : Nat :=
  let floor := num / den
  let rest := num % den
  if den < 2 * rest || (2 * rest == den && floor % 2 == 1) then floor + 1 else floor

def infinityBits : Nat := 0x7FF * twoTo 52

def nearestBits (num den : Nat) : Nat :=
  if num == 0 then 0
  else
    let unit : Int := max (binaryExponent num den - 52) (-1074)
    let significand := roundHalfEven (num * twoTo (-unit).toNat) (den * twoTo unit.toNat)
    min infinityBits ((unit + 1074).toNat * twoTo 52 + significand)

def nearest (negative : Bool) (num den : Nat) : Float :=
  let bits := nearestBits num den
  Float.ofBits (UInt64.ofNat (if negative then twoTo 63 + bits else bits))

def ofInt (n : Int) : Float :=
  nearest (n < 0) n.natAbs 1

def finiteOfInt? (n : Int) : Option Float :=
  if nearestBits n.natAbs 1 < infinityBits then some (ofInt n) else none

def infinity : Float := Float.ofBits 0x7FF0000000000000

def notANumber : Float := Float.ofBits 0x7FF8000000000000

/-- The double nearest to `mantissa * 10 ^ exponent`, without computing hopeless powers. -/
def ofDecimal (negative : Bool) (mantissa : Nat) (exponent : Int) : Float :=
  let size : Int := (Nat.toDigits 10 mantissa).length + exponent
  if mantissa == 0 || size < -400 then nearest negative 0 1
  else if 400 < size then nearest negative (tenTo 400) 1
  else nearest negative (mantissa * tenTo exponent.toNat) (tenTo (-exponent).toNat)

end ContainerWarden.Number
