import ContainerWarden.Text.Pieces
import ContainerWarden.Text.Quoted
import ContainerWarden.Text.Utf8

namespace ContainerWarden.Text

def isUnreserved (c : Char) : Bool :=
  c.isAlphanum || c == '-' || c == '.' || c == '_' || c == '~'

def upperHexDigit (n : Nat) : Char :=
  if n < 10 then Char.ofNat (48 + n) else Char.ofNat (55 + n)

def percentOctet (octet : UInt8) : List Char :=
  ['%', upperHexDigit (octet.toNat / 16), upperHexDigit (octet.toNat % 16)]

def percentPoint (point : Nat) : List Char := (pointOctets point).flatMap percentOctet

def percentEncoded (keep : Char → Bool) (s : String) : String :=
  String.ofList ((points s).flatMap fun point =>
    if keep (Char.ofNat point) then [Char.ofNat point] else percentPoint point)

def formPoint (point : Nat) : List Char :=
  let c := Char.ofNat point
  if isUnreserved c then [c] else if c == ' ' then ['+'] else percentPoint point

def formEncoded (s : String) : String :=
  String.ofList ((points s).flatMap formPoint)

def formQuery (fields : List (String × String)) : String :=
  String.intercalate "&" (fields.map fun (name, value) => formEncoded name ++ "=" ++ formEncoded value)

def percentOctets : List Nat → List UInt8
  | [] => []
  | 0x25 :: a :: b :: rest =>
    match hexValue? (Char.ofNat a), hexValue? (Char.ofNat b) with
    | some high, some low => UInt8.ofNat (16 * high + low) :: percentOctets rest
    | _, _ => 0x25 :: percentOctets (a :: b :: rest)
  | point :: rest => pointOctets point ++ percentOctets rest

def percentDecoded (s : String) : String := utf8Repaired (percentOctets (points s))

def formDecoded (s : String) : String :=
  percentDecoded (String.ofList (s.toList.map fun c => if c == '+' then ' ' else c))

def formField (piece : String) : String × String :=
  let (name, value) := piece.toList.span (· != '=')
  (formDecoded (String.ofList name), formDecoded (String.ofList (value.drop 1)))

def formFields (query : String) : List (String × String) :=
  ((pieces '&' query).filter (· != "")).map formField

end ContainerWarden.Text
