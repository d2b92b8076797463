namespace ContainerWarden.Text

def isHighSurrogate (unit : Nat) : Bool := 0xD800 ≤ unit && unit < 0xDC00

def isLowSurrogate (unit : Nat) : Bool := 0xDC00 ≤ unit && unit < 0xE000

def isSurrogate (unit : Nat) : Bool := 0xD800 ≤ unit && unit < 0xE000

/-- A surrogate without its partner is no character. Texts are written so that they can hold it all the
    same: as this mark and the character that lies 0x800 behind it. The mark itself is written twice, and
    all other characters as they are. -/
def mark : Char := Char.ofNat 0x10FFFF

def written (point : Nat) : List Char :=
  if isSurrogate point then [mark, Char.ofNat (point + 0x800)]
  else if point == mark.toNat then [mark, mark]
  else [Char.ofNat point]

def ofPoints (points : List Nat) : String := String.ofList (points.flatMap written)

def marked? (first second : Char) : Option Nat :=
  if first != mark then none
  else if second == mark then some mark.toNat
  else (some (second.toNat - 0x800)).filter isSurrogate

def read : List Char → List Nat
  | first :: second :: rest =>
    match marked? first second with
    | some point => point :: read rest
    | none => first.toNat :: read (second :: rest)
  | [last] => [last.toNat]
  | [] => []

def points (s : String) : List Nat := read s.toList

def length (s : String) : Nat := (points s).length

def ofUnicode (s : String) : String := ofPoints (s.toList.map Char.toNat)

structure Unencodable where
  encoding : String
  reason : String
  start : Nat
  run : List Nat
  deriving DecidableEq, Repr

def firstRun? (kind : Nat → Bool) (s : String) : Option (Nat × List Nat) :=
  match (points s).span fun n => !kind n with
  | (before, n :: rest) => some (before.length, n :: rest.takeWhile kind)
  | (_, []) => none

def unencodableBut? (accepted : Nat → Bool) (s : String) : Option Unencodable :=
  (firstRun? (fun n => isSurrogate n && !accepted n) s).map fun (start, run) =>
    ⟨"utf-8", "surrogates not allowed", start, run⟩

def unencodable? (s : String) : Option Unencodable := unencodableBut? (fun _ => false) s

def beyondAscii? (s : String) : Option Unencodable :=
  (firstRun? (0x80 ≤ ·) s).map fun (start, run) =>
    ⟨"ascii", "ordinal not in range(128)", start, run⟩

end ContainerWarden.Text
