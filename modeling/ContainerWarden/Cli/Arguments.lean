import ContainerWarden.Number.Reading

namespace ContainerWarden.Cli

inductive UsageError where
  | ambiguous (text : String)
  | valueMissing (option : String)
  | commandMissing
  | unknownCommand (text : String)
  | unrecognized (text : String)
  | notWhole (text : String)
  deriving DecidableEq, Repr

def UsageError.message : UsageError → String
  | ambiguous text => "several options begin with " ++ text
  | valueMissing option => "a value must follow " ++ option
  | commandMissing => "a command must be given"
  | unknownCommand text => "there is no command " ++ text
  | unrecognized text => "unexpected argument " ++ text
  | notWhole text => "no whole number: " ++ text

inductive Token where
  | plain (text : String)
  | separator
  | option (name : String) (value : Option String)
  | stranger (text : String)
  deriving DecidableEq, Repr

def isNegativeNumber (text : List Char) : Bool :=
  match text with
  | '-' :: rest =>
    let rest := if rest.getLast? == some '\n' then rest.dropLast else rest
    let isDigit (c : Char) : Bool := (Text.digitValue? c).isSome
    match rest.dropWhile isDigit with
    | [] => !rest.isEmpty
    | '.' :: decimals => !decimals.isEmpty && decimals.all isDigit
    | _ => false
  | _ => false

def splitAssignment (text : String) : String × Option String :=
  match text.toList.span (· != '=') with
  | (name, _ :: value) => (String.ofList name, some (String.ofList value))
  | (name, []) => (String.ofList name, none)

def completions (options : List String) (start : String) : List String :=
  options.filter (·.startsWith start)

/-- Long options may be cut short as long as one option is meant. -/
def abbreviated (options : List String) (text : String) : Except UsageError (Option Token) :=
  if text.startsWith "--" then
    let (start, value) := splitAssignment text
    match completions options start with
    | [] => .ok none
    | [name] => .ok (some (.option name value))
    | _ => .error (.ambiguous text)
  else
    .ok none

def classify (options : List String) (text : String) : Except UsageError Token :=
  if !text.startsWith "-" || text == "-" then .ok (.plain text)
  else if options.contains text then .ok (.option text none)
  else
    match splitAssignment text with
    | (name, some value) =>
      if options.contains name then .ok (.option name (some value)) else dashed
    | (_, none) => dashed
where
  dashed : Except UsageError Token := do
    match ← abbreviated options text with
    | some token => return token
    | none =>
      if isNegativeNumber text.toList || text.contains ' ' then return .plain text
      else return .stranger text

def tokens (options : List String) : List String → Except UsageError (List (String × Token))
  | [] => .ok []
  | text :: rest =>
    if text == "--" then .ok ((text, .separator) :: rest.map fun s => (s, .plain s))
    else do
      let token ← classify options text
      return (text, token) :: (← tokens options rest)

abbrev Values := List (String × String)

def readOptions : Values → List (String × Token) → Except UsageError (Values × List String)
  | values, [] => .ok (values, [])
  | values, (_, .option name (some value)) :: rest => readOptions ((name, value) :: values) rest
  | values, (_, .option name none) :: (_, .plain value) :: rest =>
    readOptions ((name, value) :: values) rest
  | _, (_, .option name none) :: _ => .error (.valueMissing name)
  | _, (text, .stranger _) :: _ => .error (.unrecognized text)
  | values, rest => .ok (values, rest.map (·.1))

end ContainerWarden.Cli
