namespace ContainerWarden.Text

def sextet? (c : Char) : Option Nat :=
  if 'A' ≤ c && c ≤ 'Z' then some (c.toNat - 65)
  else if 'a' ≤ c && c ≤ 'z' then some (c.toNat - 71)
  else if c.isDigit then some (c.toNat + 4)
  else if c == '+' then some 62
  else if c == '/' then some 63
  else none

structure Base64Group where
  position : Nat := 0
  left : Nat := 0
  pads : Nat := 0
  deriving DecidableEq, Repr

def Base64Group.push (group : Base64Group) (sextet : Nat) : Option Nat × Base64Group :=
  match group.position with
  | 0 => (none, ⟨1, sextet, 0⟩)
  | 1 => (some (4 * group.left + sextet / 16), ⟨2, sextet % 16, 0⟩)
  | 2 => (some (16 * group.left + sextet / 4), ⟨3, sextet % 4, 0⟩)
  | _ => (some (64 * group.left + sextet), ⟨0, 0, 0⟩)

def Base64Group.isPadded (group : Base64Group) : Bool :=
  2 ≤ group.position && 4 ≤ group.position + group.pads + 1

/-- Reads base64. Characters outside the alphabet are passed over, a completed padding ends the text,
    and a group must be complete or padded. -/
def base64Octets (group : Base64Group) : List Char → Option (List Nat)
  | [] => if group.position == 0 then some [] else none
  | c :: rest =>
    if c == '=' then
      if group.isPadded then some []
      else
        let pads := if 2 ≤ group.position then group.pads + 1 else group.pads
        base64Octets { group with pads } rest
    else
      match sextet? c with
      | none => base64Octets group rest
      | some sextet =>
        let (octet?, group) := group.push sextet
        (base64Octets group rest).map (octet?.toList ++ ·)

def base64Ascii? (s : String) : Option String := do
  if s.toList.all (·.toNat < 128) then
    let octets ← base64Octets {} s.toList
    if octets.all (· < 128) then return String.ofList (octets.map Char.ofNat) else none
  else none

def sextetChar (n : Nat) : Char :=
  if n < 26 then Char.ofNat (65 + n)
  else if n < 52 then Char.ofNat (71 + n)
  else if n < 62 then Char.ofNat (n - 4)
  else if n == 62 then '+'
  else '/'

def base64Chars : List UInt8 → List Char
  | [] => []
  | [a] => [sextetChar (a.toNat / 4), sextetChar (a.toNat % 4 * 16), '=', '=']
  | [a, b] =>
    [sextetChar (a.toNat / 4), sextetChar (a.toNat % 4 * 16 + b.toNat / 16),
      sextetChar (b.toNat % 16 * 4), '=']
  | a :: b :: c :: rest =>
    sextetChar (a.toNat / 4) :: sextetChar (a.toNat % 4 * 16 + b.toNat / 16) ::
      sextetChar (b.toNat % 16 * 4 + c.toNat / 64) :: sextetChar (c.toNat % 64) :: base64Chars rest

def base64Text (octets : List UInt8) : String := String.ofList (base64Chars octets)

end ContainerWarden.Text
