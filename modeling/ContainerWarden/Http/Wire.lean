import ContainerWarden.Http.Message
import ContainerWarden.Number.Reading
import ContainerWarden.Text.Base64

namespace ContainerWarden

structure HttpTarget where
  host : String
  portNumber : UInt16
  path : String
  deriving DecidableEq, Repr

namespace HttpTarget

def scheme : String := "http:" ++ "//"

def defaultPortNumber : Int := 80

def readPortNumber? (digits : List Char) : Option UInt16 := do
  let n ← if digits.isEmpty then some defaultPortNumber else Number.readInt? (String.ofList digits)
  if 0 ≤ n && n < 65536 then return n.toNat.toUInt16 else none

def ofUrl? (url : String) : Option HttpTarget := do
  if url.startsWith scheme then
    let (authority, path) := (url.toList.drop scheme.length).span fun c => c != '/' && c != '?'
    let (host, number) := authority.span (· != ':')
    if host.isEmpty then none
    else
      let path := String.ofList (if path.head? == some '/' then path else '/' :: path)
      return ⟨String.ofList host, ← readPortNumber? (number.drop 1), path⟩
  else none

def requestLines (target : HttpTarget) (method user password : String) : List String :=
  [method ++ " " ++ target.path ++ " HTTP/1.0",
    "Host: " ++ target.host ++ ":" ++ toString target.portNumber.toNat,
    "Authorization: Basic " ++ Text.base64Text (Text.utf8Octets (user ++ ":" ++ password)),
    "Accept: */*", "Content-Length: 0", "", ""]

def requestText (target : HttpTarget) (method user password : String) : String :=
  String.intercalate "\r\n" (target.requestLines method user password)

end HttpTarget

namespace HttpResponse

def splitHead? : List UInt8 → Option (List UInt8 × List UInt8)
  | [] => none
  | 13 :: 10 :: 13 :: 10 :: body => some ([], body)
  | octet :: rest => (splitHead? rest).map fun (head, body) => (octet :: head, body)

def ofOctets? (octets : List UInt8) : Option HttpResponse := do
  let (head, body) ← splitHead? octets
  let word := ((head.dropWhile (· != 32)).drop 1).takeWhile fun o => o != 32 && o != 13
  let code ← Number.readInt? (String.ofList (word.map fun o => Char.ofNat o.toNat))
  return { code := code.toNat, body }

end HttpResponse

end ContainerWarden
