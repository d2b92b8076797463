import ContainerWarden.Text.Surrogate

namespace ContainerWarden.Text

structure Begun where
  missing : Nat
  low : Nat
  high : Nat
  value : Nat

structure Utf8Reader where
  surrogates : Bool
  begun : Option Begun := none
  found : List (Option Nat) := []

namespace Utf8Reader

def emit (reader : Utf8Reader) (point : Option Nat) : Utf8Reader :=
  { reader with begun := none, found := point :: reader.found }

def await (reader : Utf8Reader) (missing low high value : Nat) : Utf8Reader :=
  { reader with begun := some ⟨missing, low, high, value⟩ }

/-- An octet that starts a character. The bounds of the octet after it leave out overlong forms. -/
def start (reader : Utf8Reader) (octet : Nat) : Utf8Reader :=
  if octet < 0x80 then reader.emit (some octet)
  else if octet < 0xC2 || 0xF4 < octet then reader.emit none
  else if octet < 0xE0 then reader.await 1 0x80 0xBF (octet - 0xC0)
  else if octet < 0xF0 then
    let low := if octet == 0xE0 then 0xA0 else 0x80
    let high := if octet == 0xED && !reader.surrogates then 0x9F else 0xBF
    reader.await 2 low high (octet - 0xE0)
  else
    let low := if octet == 0xF0 then 0x90 else 0x80
    let high := if octet == 0xF4 then 0x8F else 0xBF
    reader.await 3 low high (octet - 0xF0)

def read (reader : Utf8Reader) (octet : UInt8) : Utf8Reader :=
  match reader.begun with
  | none => reader.start octet.toNat
  | some begun =>
    if begun.low ≤ octet.toNat && octet.toNat ≤ begun.high then
      let value := 0x40 * begun.value + octet.toNat % 0x40
      if begun.missing ≤ 1 then reader.emit (some value)
      else reader.await (begun.missing - 1) 0x80 0xBF value
    else (reader.emit none).start octet.toNat

def finish (reader : Utf8Reader) : List (Option Nat) :=
  match reader.begun with
  | none => reader.found.reverse
  | some _ => (reader.emit none).found.reverse

end Utf8Reader

def utf8Points (surrogates : Bool) (octets : List UInt8) : List (Option Nat) :=
  (octets.foldl Utf8Reader.read { surrogates }).finish

def utf8? (octets : List UInt8) : Option String :=
  ((utf8Points true octets).mapM id).map ofPoints

def utf8Repaired (octets : List UInt8) : String :=
  ofPoints ((utf8Points false octets).map (·.getD 0xFFFD))

def pointOctets (point : Nat) : List UInt8 :=
  if isSurrogate point then
    [0xED, UInt8.ofNat (0x80 + point / 0x40 % 0x40), UInt8.ofNat (0x80 + point % 0x40)]
  else String.utf8EncodeChar (Char.ofNat point)

def utf8Octets (s : String) : List UInt8 := (points s).flatMap pointOctets

end ContainerWarden.Text
