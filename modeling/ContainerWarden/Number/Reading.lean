import ContainerWarden.Number.Binary
import ContainerWarden.Text.Blank
import ContainerWarden.Text.Digit

namespace ContainerWarden.Number

def digitRun? : List Char → Option (List Nat)
  | [] => none
  | c :: rest => do
    let digit ← Text.digitValue? c
    match rest with
    | [] => return [digit]
    | '_' :: more => return digit :: (← digitRun? more)
    | more => return digit :: (← digitRun? more)

def digitsValue (digits : List Nat) : Nat :=
  digits.foldl (fun total digit => 10 * total + digit) 0

def splitSign : List Char → Bool × List Char
  | '-' :: rest => (true, rest)
  | '+' :: rest => (false, rest)
  | rest => (false, rest)

/-- Longer numerals are refused, however many of their digits are zeros. -/
def digitLimit : Nat := 4300

def withSign (negative : Bool) (size : Nat) : Int :=
  if negative then -size else size

def readInt? (s : String) : Option Int := do
  let (negative, rest) := splitSign (Text.trim Text.isNumberBlank s.toList)
  let digits ← digitRun? rest
  if digits.length ≤ digitLimit then return withSign negative (digitsValue digits) else none

def asciiValue (cs : List Char) : Nat :=
  cs.foldl (fun total c => 10 * total + (c.toNat - 48)) 0

def asciiDigits (cs : List Char) : List Char :=
  cs.map fun c =>
    match Text.digitValue? c with
    | some digit => Char.ofNat (48 + digit)
    | none => c

/-- Drops underscores, each of which must stand between two digits. -/
def dropSeparators? : List Char → Option (List Char)
  | [] => some []
  | '_' :: _ => none
  | c :: '_' :: d :: rest =>
    if c.isDigit && d.isDigit then (dropSeparators? (d :: rest)).map (c :: ·) else none
  | c :: rest => (dropSeparators? rest).map (c :: ·)

def splitDigits (cs : List Char) : List Char × List Char :=
  (cs.takeWhile Char.isDigit, cs.dropWhile Char.isDigit)

def exponentPart? : List Char → Option Int
  | [] => some 0
  | mark :: rest =>
    if mark == 'e' || mark == 'E' then
      let (negative, rest) := splitSign rest
      match splitDigits rest with
      | ([], _) => none
      | (digits, []) => some (withSign negative (asciiValue digits))
      | _ => none
    else none

def fractionPart : List Char → List Char × List Char
  | '.' :: rest => splitDigits rest
  | rest => ([], rest)

def numeral? (negative : Bool) (cs : List Char) : Option Float := do
  let (whole, rest) := splitDigits cs
  let (decimals, rest) := fractionPart rest
  if whole.isEmpty && decimals.isEmpty then none
  else
    let power ← exponentPart? rest
    return ofDecimal negative (asciiValue (whole ++ decimals)) (power - decimals.length)

def specialWords : List (List Char × Float) :=
  [("inf".toList, infinity), ("infinity".toList, infinity), ("nan".toList, notANumber)]

def readFloat? (s : String) : Option Float := do
  let cs ← dropSeparators? (asciiDigits (Text.trim Text.isNumberBlank s.toList))
  let (negative, rest) := splitSign cs
  match specialWords.lookup (rest.map Char.toLower) with
  | some special => return if negative then -special else special
  | none => numeral? negative rest

end ContainerWarden.Number
