import ContainerWarden.Number.Extended

namespace ContainerWarden.Number

structure Layout where
  positional : Int × Int
  fraction : Bool
  zeroSign : Bool
  infinity : String
  notANumber : String

def Layout.plain : Layout := ⟨(-4, 15), false, true, "inf", "nan"⟩

def Layout.document : Layout := { Layout.plain with infinity := "Infinity", notANumber := "NaN" }

def Layout.column : Layout := ⟨(-4, 14), true, false, "Inf", ""⟩

def pointed (whole fraction : List Char) : List Char :=
  whole ++ '.' :: (if fraction.isEmpty then ['0'] else fraction)

def zeros (n : Nat) : List Char := List.replicate n '0'

def Decimal.positional (d : Decimal) : List Char :=
  let text := decimalText d.digits
  let point : Int := text.length + d.exponent
  if point ≤ 0 then pointed ['0'] (zeros (-point).toNat ++ text)
  else pointed (text.take point.toNat ++ zeros (point.toNat - text.length)) (text.drop point.toNat)

def exponentText (e : Int) : List Char :=
  let text := decimalText e.natAbs
  'e' :: (if e < 0 then '-' else '+') :: zeros (2 - text.length) ++ text

def Decimal.scientific (layout : Layout) (d : Decimal) : List Char :=
  let text := decimalText d.digits
  let mantissa :=
    if text.length == 1 && !layout.fraction then text else pointed (text.take 1) (text.drop 1)
  mantissa ++ exponentText (text.length - 1 + d.exponent)

def Decimal.written (layout : Layout) (d : Decimal) : List Char :=
  let lead : Int := (decimalText d.digits).length - 1 + d.exponent
  if layout.positional.1 ≤ lead && lead ≤ layout.positional.2 then d.positional
  else d.scientific layout

def signed (negative : Bool) (cs : List Char) : List Char :=
  if negative then '-' :: cs else cs

def writtenWith (layout : Layout) (digits : Binary → Decimal) (x : Float) : String :=
  match Binary.ofFloat? x with
  | some b =>
    if b.significand == 0 then
      String.ofList (signed (b.negative && layout.zeroSign) ((Decimal.mk 0 0).written layout))
    else String.ofList (signed b.negative ((digits b).written layout))
  | none =>
    if x.isNaN then layout.notANumber
    else String.ofList (signed (x < 0) layout.infinity.toList)

def written (x : Float) : String := writtenWith Layout.plain Binary.shortest x

def documentText (x : Float) : String := writtenWith Layout.document Binary.shortest x

def columnText (x : Float) : String := writtenWith Layout.column (·.significant 15) x

end ContainerWarden.Number
