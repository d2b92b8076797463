import ContainerWarden.Json.Basic
import ContainerWarden.Number.Shortest

namespace ContainerWarden

structure CivilDate where
  year : Int
  month : Nat
  day : Nat
  deriving DecidableEq, Repr

/-- The date of a count of days from 1970-01-01 on. Years are counted from March here, so that the leap
    day is the last of its year, and 400 years have 146097 days. -/
def CivilDate.ofDays (days : Int) : CivilDate :=
  let shifted := days + 719468
  let era := shifted.fdiv 146097
  let dayOfEra := (shifted.fmod 146097).toNat
  let yearOfEra := (dayOfEra - dayOfEra / 1460 + dayOfEra / 36524 - dayOfEra / 146096) / 365
  let dayOfYear := dayOfEra - (365 * yearOfEra + yearOfEra / 4 - yearOfEra / 100)
  let marchMonth := (5 * dayOfYear + 2) / 153
  let month := if marchMonth < 10 then marchMonth + 3 else marchMonth - 9
  let year := (yearOfEra : Int) + 400 * era
  ⟨if month ≤ 2 then year + 1 else year, month, dayOfYear - (153 * marchMonth + 2) / 5 + 1⟩

structure Instant where
  seconds : Int
  deriving DecidableEq, Repr

namespace Instant

/-- Rounds a time to microseconds, a tie to even ones, and drops what is below a second. -/
def ofFloat? (x : Float) : Option Instant := do
  let b ← Number.Binary.ofFloat? x
  let (num, den) := b.quotient
  let micros : Int := Number.roundHalfEven (num * 1000000) den
  return ⟨(if b.negative then -micros else micros).fdiv 1000000⟩

def ofJson? : Json → Option Instant
  | .int n => some ⟨n⟩
  | .float x => ofFloat? x
  | _ => none

def twoDigits (n : Nat) : String :=
  String.ofList (List.replicate (2 - (Number.decimalText n).length) '0' ++ Number.decimalText n)

def text (instant : Instant) : String :=
  let date := CivilDate.ofDays (instant.seconds.fdiv 86400)
  let second := (instant.seconds.fmod 86400).toNat
  toString date.year ++ "-" ++ twoDigits date.month ++ "-" ++ twoDigits date.day ++ "T" ++
    twoDigits (second / 3600) ++ ":" ++ twoDigits (second / 60 % 60) ++ ":" ++
    twoDigits (second % 60) ++ "Z"

end Instant

end ContainerWarden
