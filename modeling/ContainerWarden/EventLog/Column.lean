import ContainerWarden.Fault
import ContainerWarden.Number.Reading

namespace ContainerWarden.EventLog

def fits (n : Int) : Bool := -0x8000000000000000 ≤ n && n < 0x8000000000000000

def columnText (position : Nat) : Json → Outcome (Option String)
  | .null => .ok none
  | .bool b => .ok (some (if b then "1" else "0"))
  | .int n => if fits n then .ok (some (toString n)) else .error .integerTooLarge
  | .float x => .ok (if x.isNaN then none else some (Number.columnText x))
  | .str s => (Text.unencodable? s).elim (.ok (some s)) (.error ∘ .unencodable)
  | value => .error (.unsupportedBinding ⟨position, value.typeName⟩)

/-- A double as a row count, if it is a whole number strictly between the bounds of storage. -/
def floatCount? (x : Float) : Option Int := do
  let b ← Number.Binary.ofFloat? x
  let (num, den) := b.quotient
  if num % den == 0 && num / den < 0x8000000000000000 then
    return Number.withSign b.negative (num / den)
  else none

def isCountBlank (c : Char) : Bool :=
  c == ' ' || (0x09 ≤ c.toNat && c.toNat ≤ 0x0D)

def textCount? (s : String) : Option Int := do
  let (negative, rest) := Number.splitSign (Text.trim isCountBlank s.toList)
  let value ← Number.numeral? negative rest
  if rest.all Char.isDigit then
    let n := Number.withSign negative (Number.asciiValue rest)
    if fits n then return n else none
  else floatCount? value

def rowCount (position : Nat) : Json → Outcome Int
  | .bool b => .ok (if b then 1 else 0)
  | .int n => if fits n then .ok n else .error .integerTooLarge
  | .float x => (floatCount? x).elim (.error .limitMismatch) .ok
  | .str s =>
    match Text.unencodable? s with
    | some run => .error (.unencodable run)
    | none => (textCount? s).elim (.error .limitMismatch) .ok
  | .null => .error .limitMismatch
  | value => .error (.unsupportedBinding ⟨position, value.typeName⟩)

end ContainerWarden.EventLog
