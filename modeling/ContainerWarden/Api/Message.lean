import ContainerWarden.EventLog.Basic
import ContainerWarden.Json.Printer
import ContainerWarden.Settings
import ContainerWarden.Text.Base64
import ContainerWarden.Text.Percent

namespace ContainerWarden

structure ApiRequest where
  method : String
  path : String
  fields : List (String × String) := []
  authorization : Option String := none
  deriving DecidableEq, Repr

structure ApiResponse where
  status : Nat
  body : Option Json
  /-- The scheme in which the service asks for credentials. -/
  challenge : Option String := none

namespace ApiRequest

def service : String := "http:" ++ "//" ++ "localhost"

/-- A request for a target, whose query holds the fields unless these are given. What was encoded twice in
    the path is decoded. -/
def make (method target : String) (fields : Option (List (String × String)))
    (authorization : Option String) : Except AddressFault ApiRequest := do
  let address ← (← Address.ofService service).below target
  return {
    method := Text.upper method
    path := Text.percentDecoded (Text.percentDecoded address.path)
    fields := fields.getD address.fields
    authorization }

end ApiRequest

namespace ApiResponse

def ok (body : Json) : ApiResponse := { status := 200, body := some body }

def detail (status : Nat) (text : String) : ApiResponse :=
  { status, body := some (.obj [("detail", .str text)]) }

def unauthorized (text : String) : ApiResponse :=
  { detail 401 text with challenge := some "Basic" }

def notFound : ApiResponse := detail 404 "Not Found"

def wrongMethod : ApiResponse := detail 405 "Method Not Allowed"

def notRunning : ApiResponse := detail 503 "Sidecar is not running."

def invalid : ApiResponse := { status := 422, body := none }

def page : ApiResponse := { status := 200, body := some (.str "") }

def internalError : ApiResponse := { status := 500, body := some (.str "Internal Server Error") }

def isEncodable (response : ApiResponse) : Bool :=
  response.body.all fun body => (Text.unencodable? body.tree).isNone

/-- A response to a method. One that asks for the head alone gets an empty body. -/
def sentTo (method : String) (response : ApiResponse) : ApiResponse :=
  if method == "HEAD" then { response with body := some (.str "") } else response

end ApiResponse

structure Credentials where
  user : String
  password : String
  deriving DecidableEq, Repr

namespace Credentials

def splitAt? (mark : Char) (s : String) : String × Option String :=
  match s.toList.span (· != mark) with
  | (before, _ :: after) => (String.ofList before, some (String.ofList after))
  | (before, []) => (String.ofList before, none)

def ofHeader? (header : String) : Option Credentials := do
  let (scheme, token) := splitAt? ' ' header
  if String.ofList (scheme.toList.map Char.toLower) != "basic" then none
  else
    let text ← Text.base64Ascii? (token.getD "")
    let (user, password?) := splitAt? ':' text
    return ⟨user, ← password?⟩

def ofRequest? (request : ApiRequest) : Option Credentials := request.authorization.bind ofHeader?

def isAscii (s : String) : Bool := s.toList.all (·.toNat < 128)

/-- Whether two texts are the same. Texts beyond ASCII cannot be compared. -/
def compare? (given configured : String) : Option Bool :=
  if isAscii given && isAscii configured then some (given == configured) else none

/-- Whether credentials are those of the settings. A password is compared only for the right user, and
    one that was drawn is known to nobody. -/
def match? (credentials : Credentials) (settings : Settings) : Option Bool := do
  if ← compare? credentials.user settings.apiUser then
    match settings.apiPassword with
    | .configured password => compare? credentials.password password
    | .drawn _ => return false
  else return false

end Credentials

namespace ApiRequest

def authenticate (settings : Settings) (request : ApiRequest) : Except ApiResponse String :=
  match Credentials.ofRequest? request with
  | none => .error (.unauthorized "Not authenticated")
  | some credentials =>
    match credentials.match? settings with
    | none => .error .internalError
    | some true => .ok credentials.user
    | some false => .error (.unauthorized "Invalid credentials")

def field? (request : ApiRequest) (name : String) : Option String := request.fields.reverse.lookup name

end ApiRequest

def pageLimits : Int × Int := (1, 1000)

def defaultPage : Int := 100

def withoutZeros : List Char → List Char
  | '0' :: rest => rest.dropWhile fun c => c == '0' || c == '_'
  | cs => cs

/-- A whole number in ASCII, from one on. Blanks around it are allowed, and a point with zeros behind it. -/
def pageNumber? (text : String) : Option Int := do
  let cs := Text.trim (fun c => Text.isNumberBlank c) text.toList
  let cs := match cs with
    | '+' :: rest => rest
    | rest => rest
  let (whole, decimals) := (withoutZeros cs).span (· != '.')
  if decimals != ['.'] && (decimals.drop 1).all (· == '0') &&
      whole.all (fun c => c.isDigit || c == '_') then
    let digits ← Number.digitRun? whole
    return Number.digitsValue digits
  else none

def readPage? : Option String → Option Int
  | none => some defaultPage
  | some text =>
    (pageNumber? text).filter fun n => pageLimits.1 ≤ n && n ≤ pageLimits.2

end ContainerWarden
