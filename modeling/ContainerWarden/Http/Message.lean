import ContainerWarden.Fault
import ContainerWarden.Json.Parser
import ContainerWarden.Text.Encoding

namespace ContainerWarden

structure HttpRequest where
  address : Address
  timeout : Float

structure HttpResponse where
  code : Nat
  body : List UInt8
  location : Option String := none
  deriving DecidableEq, Repr, Inhabited

namespace HttpResponse

def make (code : Nat) (body : List UInt8) (location : Option String) : Outcome HttpResponse :=
  match location.bind Text.beyondAscii? with
  | some run => .error (.unencodable run)
  | none => .ok { code, body, location }

def phrases : List (Nat × String) :=
  [(100, "Continue"), (101, "Switching Protocols"), (102, "Processing"), (103, "Early Hints"),
    (200, "OK"), (201, "Created"), (202, "Accepted"), (203, "Non-Authoritative Information"),
    (204, "No Content"), (205, "Reset Content"), (206, "Partial Content"), (207, "Multi-Status"),
    (208, "Already Reported"), (226, "IM Used"), (300, "Multiple Choices"),
    (301, "Moved Permanently"), (302, "Found"), (303, "See Other"), (304, "Not Modified"),
    (305, "Use Proxy"), (307, "Temporary Redirect"), (308, "Permanent Redirect"),
    (400, "Bad Request"), (401, "Unauthorized"), (402, "Payment Required"), (403, "Forbidden"),
    (404, "Not Found"), (405, "Method Not Allowed"), (406, "Not Acceptable"),
    (407, "Proxy Authentication Required"), (408, "Request Timeout"), (409, "Conflict"),
    (410, "Gone"), (411, "Length Required"), (412, "Precondition Failed"),
    (413, "Request Entity Too Large"), (414, "Request-URI Too Long"),
    (415, "Unsupported Media Type"), (416, "Requested Range Not Satisfiable"),
    (417, "Expectation Failed"), (418, "I'm a teapot"), (421, "Misdirected Request"),
    (422, "Unprocessable Entity"), (423, "Locked"), (424, "Failed Dependency"), (425, "Too Early"),
    (426, "Upgrade Required"), (428, "Precondition Required"), (429, "Too Many Requests"),
    (431, "Request Header Fields Too Large"), (451, "Unavailable For Legal Reasons"),
    (500, "Internal Server Error"), (501, "Not Implemented"), (502, "Bad Gateway"),
    (503, "Service Unavailable"), (504, "Gateway Timeout"), (505, "HTTP Version Not Supported"),
    (506, "Variant Also Negotiates"), (507, "Insufficient Storage"), (508, "Loop Detected"),
    (510, "Not Extended"), (511, "Network Authentication Required")]

def phrase (code : Nat) : String := (phrases.lookup code).getD ""

def isSuccess (response : HttpResponse) : Bool := 200 ≤ response.code && response.code < 300

def className (code : Nat) : String :=
  match code / 100 with
  | 1 => "Informational response"
  | 3 => "Redirect response"
  | 4 => "Client error"
  | 5 => "Server error"
  | _ => "Invalid status code"

def redirects : List Nat := [301, 302, 303, 307, 308]

def redirection? (response : HttpResponse) : Option String :=
  response.location.filter fun _ => redirects.contains response.code

def redirectLine (response : HttpResponse) : String :=
  match response.redirection? with
  | some location => "Redirect location: '" ++ location ++ "'\n"
  | none => ""

def referenceAddress : String :=
  String.intercalate "/"
    ["https:", "", "developer.mozilla.org", "en-US", "docs", "Web", "HTTP", "Status", ""]

def failureText (response : HttpResponse) (url : String) : String :=
  className response.code ++ " '" ++ toString response.code ++ " " ++ phrase response.code ++
    "' for url '" ++ url ++ "'\n" ++ response.redirectLine ++ "For more information check: " ++
    referenceAddress ++ toString response.code

def document (response : HttpResponse) : Except Json.Malformed Json :=
  match Text.decode? response.body with
  | some text => Json.parse text
  | none => .error .notJson

end HttpResponse

end ContainerWarden
