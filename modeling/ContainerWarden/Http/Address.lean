import ContainerWarden.Http.Host

namespace ContainerWarden

inductive AddressFault where
  | tooLong
  | partTooLong (name : String)
  | unprintable (c : Char) (position : Nat)
  | badHost (kind : BadHost) (host : String)
  | badPortNumber (text : String)
  | pathNotAbsolute
  | pathStart (start : String)
  deriving DecidableEq, Repr

namespace AddressFault

def message : AddressFault → String
  | tooLong => "URL too long"
  | partTooLong name => "URL component '" ++ name ++ "' too long"
  | unprintable c position =>
    "Invalid non-printable ASCII character in URL, " ++ Text.quoted (String.singleton c) ++
      " at position " ++ toString position ++ "."
  | badHost .ipv4 host => "Invalid IPv4 address: " ++ Text.quoted host
  | badHost .ipv6 host => "Invalid IPv6 address: " ++ Text.quoted host
  | badHost .domain host => "Invalid IDNA hostname: " ++ Text.quoted host
  | badPortNumber text => "Invalid port: " ++ Text.quoted text
  | pathNotAbsolute => "For absolute URLs, path must be empty or begin with '/'"
  | pathStart start => "Relative URLs cannot have a path starting with '" ++ start ++ "'"

end AddressFault

structure AddressParts where
  scheme : List Char := []
  user : List Char := []
  host : List Char := []
  portNumber : List Char := []
  path : List Char
  query : Option (List Char) := none
  fragment : Option (List Char) := none

namespace AddressParts

def splitLast (mark : Char) (cs : List Char) : List Char × List Char :=
  let (after, before) := cs.reverse.span (· != mark)
  (before.drop 1 |>.reverse, after.reverse)

/-- A scheme starts with a letter. A colon with nothing before it counts as an empty scheme. -/
def splitScheme (cs : List Char) : List Char × List Char :=
  let (name, rest) := cs.span fun c => c.isAlphanum || c == '+' || c == '.' || c == '-'
  match rest with
  | ':' :: rest => if name.head?.all Char.isAlpha then (name, rest) else ([], cs)
  | _ => ([], cs)

def splitHost (cs : List Char) : List Char × List Char :=
  let (host, rest) :=
    if cs.head? == some '[' && cs.contains ']' then
      let (inside, rest) := splitLast ']' cs
      (inside ++ [']'], rest)
    else cs.span (· != ':')
  (host, if rest.head? == some ':' then rest.drop 1 else rest)

def withAuthority (parts : AddressParts) (authority : List Char) : AddressParts :=
  let (user, rest) := splitLast '@' authority
  let (host, portNumber) := splitHost rest
  { parts with user, host, portNumber }

def behind? (mark : Char) : List Char → Option (List Char)
  | c :: rest => if c == mark then some rest else none
  | [] => none

def ofText (text : String) : AddressParts :=
  let (scheme, rest) := splitScheme text.toList
  let (authority, rest) :=
    match rest with
    | '/' :: '/' :: rest => rest.span fun c => c != '/' && c != '?' && c != '#'
    | _ => ([], rest)
  let (path, rest) := rest.span fun c => c != '?' && c != '#'
  let (query, rest) := rest.span (· != '#')
  let parts : AddressParts :=
    { scheme, path, query := behind? '?' query, fragment := behind? '#' rest }
  parts.withAuthority authority

end AddressParts

structure Address where
  scheme : String
  user : String
  host : String
  /-- None where it is that of the scheme. -/
  portNumber : Option Int
  path : String
  query : Option String
  fragment : Option String
  deriving DecidableEq, Repr

namespace Address

def maxLength : Nat := 65536

def isQueryChar (c : Char) : Bool :=
  0x21 ≤ c.toNat && c.toNat < 0x7F && !("\"#<>".toList.contains c)

def isPathChar (c : Char) : Bool := isQueryChar c && !("?`\x7b\x7d".toList.contains c)

def isUserChar (c : Char) : Bool := isPathChar c && !("/;=@[\\]^|".toList.contains c)

def isFragmentChar (c : Char) : Bool :=
  0x21 ≤ c.toNat && c.toNat < 0x7F && !("\"<>`".toList.contains c)

def knownPortNumbers : List (String × Int) :=
  [("ftp", 21), ("http", 80), ("https", 443), ("ws", 80), ("wss", 443)]

def readPortNumber (scheme : String) (text : List Char) : Except AddressFault (Option Int) :=
  if text.isEmpty then .ok none
  else
    match Number.readInt? (String.ofList text) with
    | none => .error (.badPortNumber (String.ofList text))
    | some n => .ok (if knownPortNumbers.lookup scheme == some n then none else some n)

/-- Takes one dot as nothing and two dots as a step back, though not beyond the beginning. -/
def followDots (path : String) : String :=
  let followed := (Text.pieces '/' path).foldl
    (fun found component =>
      if component == "." then found
      else if component == ".." then (if found == [""] then found else found.dropLast)
      else found ++ [component])
    []
  String.intercalate "/" followed

/-- A path behind a host is empty or starts with a slash, and one without scheme and host cannot be taken
    for either of them. -/
def checkPath (hasScheme hasAuthority : Bool) (path : String) : Except AddressFault Unit :=
  if hasAuthority then
    if path == "" || path.startsWith "/" then .ok () else .error .pathNotAbsolute
  else if hasScheme then .ok ()
  else if path.startsWith "//" then .error (.pathStart "//")
  else if path.startsWith ":" then .error (.pathStart ":")
  else .ok ()

def encodedPart (keep : Char → Bool) (part : List Char) : String :=
  Text.percentEncoded keep (String.ofList part)

def ofParts (parts : AddressParts) : Except AddressFault Address := do
  let written := String.ofList parts.scheme
  let user := encodedPart isUserChar parts.user
  let host ← (Host.normal parts.host).mapError (AddressFault.badHost · (String.ofList parts.host))
  let portNumber ← readPortNumber written parts.portNumber
  let scheme := String.ofList (parts.scheme.map Char.toLower)
  let hasAuthority := user != "" || host != "" || portNumber.isSome
  let path := String.ofList parts.path
  checkPath (scheme != "") hasAuthority path
  let path := if scheme != "" || hasAuthority then followDots path else path
  return {
    scheme, user, host, portNumber
    path := Text.percentEncoded isPathChar path
    query := parts.query.map (encodedPart isQueryChar)
    fragment := parts.fragment.map (encodedPart isFragmentChar) }

def ofText (text : String) : Except AddressFault Address :=
  if maxLength < Text.length text then .error .tooLong
  else
    match Text.firstRun? (fun n => n < 0x20 || n == 0x7F) text with
    | some (position, n :: _) => .error (.unprintable (Char.ofNat n) position)
    | _ => ofParts (.ofText text)

def hostText (address : Address) : String :=
  if address.host.toList.contains ':' then "[" ++ address.host ++ "]" else address.host

def marked (mark : String) : Option String → String
  | some part => mark ++ part
  | none => ""

def authority (address : Address) : String :=
  (if address.user == "" then "" else address.user ++ "@") ++ address.hostText ++
    marked ":" (address.portNumber.map toString)

def text (address : Address) : String :=
  (if address.scheme == "" then "" else address.scheme ++ ":") ++
    (if address.authority == "" then "" else "//" ++ address.authority) ++
    address.path ++ marked "?" address.query ++ marked "#" address.fragment

def parts (address : Address) : AddressParts where
  scheme := address.scheme.toList
  user := address.user.toList
  host := address.hostText.toList
  portNumber := ((address.portNumber.map toString).getD "").toList
  path := address.path.toList
  query := address.query.map String.toList
  fragment := address.fragment.map String.toList

def rebuilt (address : Address) : Except AddressFault Address :=
  let written := [("scheme", address.scheme), ("authority", address.authority),
    ("path", address.path), ("query", address.query.getD ""),
    ("fragment", address.fragment.getD "")]
  match written.find? fun (_, part) => maxLength < Text.length part with
  | some (name, _) => .error (.partTooLong name)
  | none => ofParts address.parts

def target (address : Address) : String :=
  (if address.path == "" then "/" else address.path) ++ marked "?" address.query

def withTarget (address : Address) (target : String) : Except AddressFault Address :=
  let (path, query) := target.toList.span (· != '?')
  { address with
    path := String.ofList path
    query := (AddressParts.behind? '?' query).map String.ofList }.rebuilt

def ofService (text : String) : Except AddressFault Address := do
  let address ← ofText text
  if address.target.endsWith "/" then return address
  else address.withTarget (address.target ++ "/")

def isAbsolute (address : Address) : Bool := address.scheme != "" && address.host != ""

/-- The address that a text names at a service: the text alone if it is absolute, and else a target below
    that of the service. -/
def below (service : Address) (text : String) : Except AddressFault Address := do
  let named ← ofText text
  if named.isAbsolute then return named
  else service.withTarget (service.target ++ String.ofList (named.target.toList.dropWhile (· == '/')))

def withFields (address : Address) (fields : List (String × String)) : Except AddressFault Address :=
  { address with query := some (Text.formQuery fields) }.rebuilt

def fields (address : Address) : List (String × String) := Text.formFields (address.query.getD "")

def withoutQuery (address : Address) : Address := { address with query := none }

def hasType (address : Address) : Bool :=
  match { address with fragment := none }.text.toList.span fun c => c != '/' && c != ':' with
  | (_ :: _, ':' :: _) => true
  | _ => false

/-- The text of an address as it is complained about: a mark with nothing behind it is left out. -/
def shown (address : Address) : String :=
  if address.text.endsWith "#" then (address.text.dropEnd 1).toString else address.text

inductive LocationFault where
  | noAddress (fault : AddressFault)
  | noPlace (fault : AddressFault)

/-- Checks a location that the host of an address names. One that has a scheme and no host is on the same
    host. -/
def checkLocation (address : Address) (location : String) : Except LocationFault Unit := do
  let found ← (ofText location).mapError .noAddress
  if found.scheme != "" && found.host == "" then
    let _ ← ({ found with host := address.host }.rebuilt).mapError .noPlace

end Address

end ContainerWarden
