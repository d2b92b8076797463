import ContainerWarden.Cli.Arguments
import ContainerWarden.Environment
import ContainerWarden.Http.Message
import ContainerWarden.Json.Printer

namespace ContainerWarden.Cli

inductive Command where
  | status
  | events (limit : Int) (component : Option String)
  | reconcile
  | dedup
  deriving DecidableEq, Repr

structure Invocation where
  base : String
  user : String
  password : String
  command : Command
  deriving DecidableEq, Repr

structure Call where
  method : String
  url : String
  query : Option (List (String × Json))
  user : String
  password : String
  timeout : Nat

def mainOptions : List String := ["--api", "--user", "--password"]

def eventOptions : List String := ["--limit", "--component"]

def defaultLimit : Int := 20

def readLimit (values : Values) : Except UsageError Int :=
  match values.lookup "--limit" with
  | none => .ok defaultLimit
  | some text => (Number.readInt? text).elim (.error (.notWhole text)) .ok

def checkLimits (values : Values) : Except UsageError Unit :=
  match values.find? fun (name, text) => name == "--limit" && (Number.readInt? text).isNone with
  | some (_, text) => .error (.notWhole text)
  | none => .ok ()

def readAll (options : List String) (arguments : List String) : Except UsageError Values := do
  let (values, rest) ← readOptions [] (← tokens options arguments)
  match rest with
  | [] => return values
  | text :: _ => throw (.unrecognized text)

def Command.ofArguments (name : String) (arguments : List String) : Except UsageError Command :=
  match name with
  | "status" => do let _ ← readAll [] arguments; return .status
  | "reconcile" => do let _ ← readAll [] arguments; return .reconcile
  | "dedup" => do let _ ← readAll [] arguments; return .dedup
  | "events" => do
    let values ← readAll eventOptions arguments
    checkLimits values
    return .events (← readLimit values) (values.lookup "--component")
  | _ => throw (.unknownCommand name)

/-- Reads a command line. Options of the service come before the command, those of the command after
    it. -/
def Invocation.ofArguments (env : Environment) (arguments : List String) :
    Except UsageError Invocation := do
  let (values, rest) ← readOptions [] (← tokens mainOptions arguments)
  match rest with
  | [] => throw .commandMissing
  | name :: rest =>
    let command ← Command.ofArguments name rest
    return {
      base := (values.lookup "--api").getD "http://localhost:8000"
      user := (values.lookup "--user").getD (env.text "HR_API_USER" "admin")
      password := (values.lookup "--password").getD (env.text "HR_API_PASSWORD" "")
      command }

def dropSlashes (s : String) : String :=
  String.ofList (s.toList.reverse.dropWhile (· == '/')).reverse

def eventQuery (limit : Int) (component : Option String) : List (String × Json) :=
  ("limit", .int limit) ::
    match component with
    | some name => if name == "" then [] else [("component", .str name)]
    | none => []

def Invocation.call (invocation : Invocation) : Call :=
  let base := dropSlashes invocation.base
  let make (method path : String) (query : Option (List (String × Json))) (timeout : Nat) : Call :=
    { method, url := base ++ path, query, user := invocation.user, password := invocation.password,
      timeout }
  match invocation.command with
  | .status => make "GET" "/status" none 10
  | .events limit component => make "GET" "/events" (some (eventQuery limit component)) 10
  | .reconcile => make "POST" "/reconcile" none 60
  | .dedup => make "POST" "/dedup" none 60

def Call.address (call : Call) : String :=
  match call.query with
  | some fields => call.url ++ "?" ++ Text.formQuery (fields.map fun (name, value) => (name, value.text))
  | none => call.url

structure Ending where
  code : Nat
  output : String
  deriving DecidableEq, Repr

def isFailure (status : Nat) : Bool := 400 ≤ status && status < 600

def document (response : HttpResponse) : Except Json.Malformed Json :=
  match Text.utf8? response.body with
  | some text => Json.parse text
  | none => .error .notJson

def Ending.ofResponse (response : HttpResponse) : Outcome Ending :=
  match document response with
  | .ok value => .ok ⟨if isFailure response.code then 1 else 0, value.tree ++ "\n"⟩
  | .error .notJson => .error .malformedBody
  | .error (.longNumber digits) => .error (.longNumber digits)
  | .error (.tooDeep container) => .error (.nestedTooDeep container)

def usageCode : Nat := 2

end ContainerWarden.Cli
