import ContainerWarden.Text.Utf8

namespace ContainerWarden.Text

inductive Encoding where
  | eight (mark : Nat)
  | sixteen (mark : Nat) (bigEndian : Bool)
  | thirtyTwo (mark : Nat) (bigEndian : Bool)
  deriving DecidableEq, Repr

/-- The encoding that a byte order mark names, or else where the zeros of the first character are. -/
def Encoding.detect : List UInt8 → Encoding
  | 0x00 :: 0x00 :: 0xFE :: 0xFF :: _ => .thirtyTwo 4 true
  | 0xFF :: 0xFE :: 0x00 :: 0x00 :: _ => .thirtyTwo 4 false
  | 0xFE :: 0xFF :: _ => .sixteen 2 true
  | 0xFF :: 0xFE :: _ => .sixteen 2 false
  | 0xEF :: 0xBB :: 0xBF :: _ => .eight 3
  | a :: b :: c :: d :: _ =>
    if a == 0 then (if b == 0 then .thirtyTwo 0 true else .sixteen 0 true)
    else if b == 0 then (if c == 0 && d == 0 then .thirtyTwo 0 false else .sixteen 0 false)
    else .eight 0
  | [a, b] => if a == 0 then .sixteen 0 true else if b == 0 then .sixteen 0 false else .eight 0
  | _ => .eight 0

def unitOf (bigEndian : Bool) (octets : List UInt8) : Nat :=
  (if bigEndian then octets else octets.reverse).foldl (fun total o => 256 * total + o.toNat) 0

def pairUnits? (bigEndian : Bool) : List UInt8 → Option (List Nat)
  | [] => some []
  | a :: b :: rest => (pairUnits? bigEndian rest).map (unitOf bigEndian [a, b] :: ·)
  | _ => none

def quadUnits? (bigEndian : Bool) : List UInt8 → Option (List Nat)
  | [] => some []
  | a :: b :: c :: d :: rest =>
    (quadUnits? bigEndian rest).map (unitOf bigEndian [a, b, c, d] :: ·)
  | _ => none

def paired? (high low : Nat) : Option Nat :=
  if isHighSurrogate high && isLowSurrogate low then
    some (0x10000 + (high - 0xD800) * 0x400 + (low - 0xDC00))
  else none

def ofUnits : List Nat → List Nat
  | high :: low :: rest =>
    match paired? high low with
    | some point => point :: ofUnits rest
    | none => high :: ofUnits (low :: rest)
  | rest => rest

def decode? (octets : List UInt8) : Option String :=
  match Encoding.detect octets with
  | .eight mark => utf8? (octets.drop mark)
  | .sixteen mark bigEndian =>
    (pairUnits? bigEndian (octets.drop mark)).map fun units => ofPoints (ofUnits units)
  | .thirtyTwo mark bigEndian => do
    let units ← quadUnits? bigEndian (octets.drop mark)
    if units.all (· < 0x110000) then return ofPoints units else none

end ContainerWarden.Text
