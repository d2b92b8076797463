namespace ContainerWarden.Text.Punycode

def digitChar (digit : Nat) : Char :=
  if digit < 26 then Char.ofNat (97 + digit) else Char.ofNat (22 + digit)

def digitValue? (c : Char) : Option Nat :=
  if c.isLower then some (c.toNat - 97)
  else if c.isUpper then some (c.toNat - 65)
  else if c.isDigit then some (c.toNat - 22)
  else none

def threshold (position bias : Nat) : Nat := max 1 (min 26 (position - bias))

theorem threshold_bounds (position bias : Nat) :
    1 ≤ threshold position bias ∧ threshold position bias ≤ 26 := by
  unfold threshold
  omega

def digits (position bias n : Nat) : List Char :=
  if n < threshold position bias then [digitChar n]
  else
    let rest := n - threshold position bias
    let base := 36 - threshold position bias
    digitChar (threshold position bias + rest % base) :: digits (position + 36) bias (rest / base)
termination_by n
decreasing_by
  have positive := (threshold_bounds position bias).1
  have smaller : (n - threshold position bias) / (36 - threshold position bias) ≤
      n - threshold position bias := Nat.div_le_self _ _
  omega

def shrink (steps distance : Nat) : Nat × Nat :=
  if 455 < distance then shrink (steps + 1) (distance / 35) else (steps, distance)
termination_by distance
decreasing_by omega

/-- The bias after a distance, the more cautious the larger the distance was. -/
def adapted (distance points : Nat) (first : Bool) : Nat :=
  let scaled := if first then distance / 700 else distance / 2
  let (steps, left) := shrink 0 (scaled + scaled / points)
  36 * steps + 36 * left / (left + 38)

structure Progress where
  done : Nat
  distance : Nat := 0
  bias : Nat := 72
  written : List Char := []

def Progress.pass (basic point : Nat) (progress : Progress) (c : Char) : Progress :=
  if c.toNat < point then { progress with distance := progress.distance + 1 }
  else if c.toNat == point then
    { done := progress.done + 1
      distance := 0
      bias := adapted progress.distance (progress.done + 1) (progress.done == basic)
      written := progress.written ++ digits 36 progress.bias progress.distance }
  else progress

def points (cs : List Char) : List Nat :=
  let found := ((cs.map Char.toNat).filter (0x80 ≤ ·)).mergeSort
  found.foldr (fun n rest => if rest.head? == some n then rest else n :: rest) []

def isBasic (c : Char) : Bool := c.toNat < 0x80

def encode (cs : List Char) : List Char :=
  let basic := cs.filter isBasic
  let (_, progress) := (points cs).foldl
    (fun (next, progress) point =>
      let distance := progress.distance + (point - next) * (progress.done + 1)
      let passed := cs.foldl (Progress.pass basic.length point) { progress with distance }
      (point + 1, { passed with distance := passed.distance + 1 }))
    (0x80, ({ done := basic.length } : Progress))
  (if basic.isEmpty then [] else basic ++ ['-']) ++ progress.written

end ContainerWarden.Text.Punycode
