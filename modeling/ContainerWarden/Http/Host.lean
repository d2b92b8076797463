import ContainerWarden.Number.Reading
import ContainerWarden.Text.DomainLetter
import ContainerWarden.Text.Lower
import ContainerWarden.Text.Percent
import ContainerWarden.Text.Punycode

namespace ContainerWarden

namespace Ipv4

/-- The places in a form of four numbers with any character between two of them: after each separator, and
    inside each number. -/
def nextPlaces (places : List Nat) (c : Char) : List Nat :=
  (List.range 8).filter fun place =>
    if place % 2 == 0 then 0 < place && places.contains (place - 1)
    else c.isDigit && (places.contains place || places.contains (place - 1))

def hasForm (host : List Char) : Bool := (host.foldl nextPlaces [0]).contains 7

def isPart (digits : List Char) : Bool :=
  !digits.isEmpty && digits.length ≤ 3 && digits.all Char.isDigit &&
    (digits.length == 1 || digits.head? != some '0') && Number.asciiValue digits ≤ 255

def isAddress (host : List Char) : Bool :=
  let parts := Text.pieces '.' (String.ofList host)
  parts.length == 4 && parts.all fun part => isPart part.toList

end Ipv4

namespace Ipv6

def isPart (part : String) : Bool :=
  part != "" && part.length ≤ 4 && part.toList.all fun c => (Text.hexValue? c).isSome

/-- Parts of which an empty one in the middle stands for at least one missing part. At either end a part is
    empty only beside such a gap. -/
def areParts (parts : List String) : Bool :=
  let inner := (parts.drop 1).dropLast
  match inner.findIdx? (· == "") with
  | none => parts.length == 8 && parts.all isPart
  | some index =>
    let before := parts.take (index + 1)
    let after := parts.drop (index + 2)
    let before := if before == [""] then [] else before
    let after := if after == [""] then [] else after
    before.length + after.length < 8 && before.all isPart && after.all isPart

/-- The parts between colons. An address of the older version at the end counts as two parts. -/
def parts? (address : String) : Option (List String) :=
  let parts := Text.pieces ':' address
  let last := parts.getLastD ""
  if parts.length < 3 then none
  else if last.toList.contains '.' then
    if Ipv4.isAddress last.toList then some (parts.dropLast ++ ["0", "0"]) else none
  else some parts

def isAddress (host : List Char) : Bool :=
  let (address, zone) := host.span (· != '%')
  let zoneFits := zone.isEmpty || (1 < zone.length && !(zone.drop 1).contains '%')
  zoneFits && !host.contains '/' && ((parts? (String.ofList address)).any areParts)

end Ipv6

namespace Domain

def isDot (c : Char) : Bool := c == '.' || c == '\u3002' || c == '\uFF0E' || c == '\uFF61'

def labels (domain : List Char) : List (List Char) :=
  domain.foldr
    (fun c found =>
      match found with
      | label :: rest => if isDot c then [] :: label :: rest else (c :: label) :: rest
      | [] => if isDot c then [[], []] else [[c]])
    [[]]

def hasGoodHyphens (label : List Char) : Bool :=
  label.head? != some '-' && label.getLast? != some '-' && (label.drop 2).take 2 != ['-', '-']

def isArabicDigit (c : Char) : Bool := 0x660 ≤ c.toNat && c.toNat ≤ 0x669

def isPersianDigit (c : Char) : Bool := 0x6F0 ≤ c.toNat && c.toNat ≤ 0x6F9

def isLeftward (c : Char) : Bool :=
  let n := c.toNat
  !isArabicDigit c && !isPersianDigit c &&
    ((0x590 ≤ n && n < 0x900) || (0xFB1D ≤ n && n < 0xFE00) || (0xFE70 ≤ n && n < 0xFF00) ||
      (0x10800 ≤ n && n < 0x11000) || (0x1E800 ≤ n && n < 0x1F000))

/-- A label with anything that runs from right to left starts so and has no letters that run otherwise. Its
    digits are of one kind. -/
def hasOneDirection (label : List Char) : Bool :=
  let isDigit (c : Char) : Bool := c.isDigit || isPersianDigit c
  if label.any fun c => isLeftward c || isArabicDigit c then
    label.head?.any isLeftward &&
      label.all (fun c => isLeftward c || isArabicDigit c || isDigit c || c == '-') &&
      !(label.any isArabicDigit && label.any isDigit)
  else true

def isAllowedBeside (label : List Char) (position : Nat) (c : Char) : Bool :=
  if c.toNat == 0xB7 then
    0 < position && label[position - 1]? == some 'l' && label[position + 1]? == some 'l'
  else if isArabicDigit c then !label.any isPersianDigit
  else isPersianDigit c && !label.any isArabicDigit

def isLabel (label : List Char) : Bool :=
  !label.isEmpty && hasGoodHyphens label && hasOneDirection label &&
    label.zipIdx.all fun (c, position) => Text.isDomainLetter c || isAllowedBeside label position c

def encodedMark : List Char := "xn--".toList

def encodeLabel? (label : List Char) : Option (List Char) :=
  let encoded? :=
    if label.all Text.Punycode.isBasic then
      if encodedMark.isPrefixOf label then
        if 4 < label.length && label.getLast? != some '-' then some label else none
      else if isLabel label then some label else none
    else if isLabel label then some (encodedMark ++ Text.Punycode.encode label)
    else none
  encoded?.filter (·.length ≤ 63)

def encode? (domain : List Char) : Option (List Char) := do
  let found := labels domain
  let named := if found.getLast? == some [] then found.dropLast else found
  let encoded ← named.mapM encodeLabel?
  let text := (String.intercalate "." (encoded.map String.ofList)).toList
  if named.isEmpty || 253 < text.length then none
  else return if found.getLast? == some [] then text ++ ['.'] else text

end Domain

inductive BadHost where
  | ipv4
  | ipv6
  | domain
  deriving DecidableEq, Repr

namespace Host

def isKept (c : Char) : Bool :=
  Text.isUnreserved c || "!$&'()*+,;=\"`\x7b\x7d%|\\".toList.contains c

def isBracketed (host : List Char) : Bool := host.head? == some '[' && host.getLast? == some ']'

def normal (host : List Char) : Except BadHost String :=
  if host.isEmpty then .ok ""
  else if Ipv4.hasForm host then
    if Ipv4.isAddress host then .ok (String.ofList host) else .error .ipv4
  else if isBracketed host then
    let address := (host.drop 1).dropLast
    if Ipv6.isAddress address then .ok (String.ofList address) else .error .ipv6
  else if host.all Text.Punycode.isBasic then
    .ok (Text.percentEncoded isKept (Text.lower (String.ofList host)))
  else
    match Domain.encode? (Text.lower (String.ofList host)).toList with
    | some domain => .ok (String.ofList domain)
    | none => .error .domain

end Host

end ContainerWarden
