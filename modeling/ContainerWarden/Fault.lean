import ContainerWarden.Http.Address
import ContainerWarden.Json.Display

namespace ContainerWarden

inductive FaultKind where
  | dockerException | apiError | notFound | imageNotFound | nullResource
  | requestException | requestConnectionError | requestTimeout
  | httpError | connectError | readTimeout | remoteProtocolError | httpStatusError | invalidUrl
  | metadataError
  | valueError | runtimeError | keyError | typeError | attributeError | osError | overflowError
  | integrityError | programmingError | operationalError | notADirectoryError
  | jsonDecodeError | unicodeEncodeError | recursionError
  deriving DecidableEq, Repr

namespace FaultKind

def label : FaultKind → String
  | dockerException => "DockerException"
  | apiError => "APIError"
  | notFound => "NotFound"
  | imageNotFound => "ImageNotFound"
  | nullResource => "NullResource"
  | requestException => "RequestException"
  | requestConnectionError => "ConnectionError"
  | requestTimeout => "Timeout"
  | httpError => "HTTPError"
  | connectError => "ConnectError"
  | readTimeout => "ReadTimeout"
  | remoteProtocolError => "RemoteProtocolError"
  | httpStatusError => "HTTPStatusError"
  | invalidUrl => "InvalidURL"
  | metadataError => "MetadataError"
  | valueError => "ValueError"
  | runtimeError => "RuntimeError"
  | keyError => "KeyError"
  | typeError => "TypeError"
  | attributeError => "AttributeError"
  | osError => "OSError"
  | overflowError => "OverflowError"
  | integrityError => "IntegrityError"
  | programmingError => "ProgrammingError"
  | operationalError => "OperationalError"
  | notADirectoryError => "NotADirectoryError"
  | jsonDecodeError => "JSONDecodeError"
  | unicodeEncodeError => "UnicodeEncodeError"
  | recursionError => "RecursionError"

def isRuntime : FaultKind → Bool
  | dockerException | apiError | notFound | imageNotFound | nullResource => true
  | requestException | requestConnectionError | requestTimeout => true
  | _ => false

def isMetadata : FaultKind → Bool
  | httpError | connectError | readTimeout | remoteProtocolError | httpStatusError => true
  | metadataError => true
  | _ => false

def isGone : FaultKind → Bool
  | notFound | imageNotFound => true
  | _ => false

end FaultKind

structure Binding where
  position : Nat
  typeName : String
  deriving DecidableEq, Repr

inductive Fault where
  | reported (kind : FaultKind) (text : String)
  | noSuchContainer (id : String)
  | noAttribute (owner name : String)
  | notAClass (typeName : String)
  | notADictionary (typeName : String)
  | notWritable (owner name : String)
  | notIterable (typeName : String)
  | notSubscriptable (typeName : String)
  | unhashable (typeName : String)
  | missingKey (key : Json)
  | notAPair (index : Nat)
  | pairLength (index length : Nat)
  | cannotAdd (left right : String)
  | cannotConcatenate (left right : String)
  | powerOverflow
  | intervalNotPositive
  | factorBelowOne
  | invalidAddress (fault : AddressFault)
  | invalidLocation (fault : AddressFault)
  | untypedAddress (text : String)
  | badStatus (text : String)
  | invalidJson (path : String)
  | unexpectedHost (payload : Json)
  | unexpectedContainers (typeName : String)
  | clientClosed
  | routerNotStarted
  | messageMissing
  | limitMismatch
  | unsupportedBinding (binding : Binding)
  | integerTooLarge
  | integerBeyondFloat
  | unencodable (run : Text.Unencodable)
  | databaseUnavailable
  | diskFailure
  | lockFailure
  | tableMissing
  | parentIsFile
  | nameTooLong
  | nullInName
  | malformedBody
  | longNumber (digits : Nat)
  | nestedTooDeep (container : String)

namespace Fault

def kind : Fault → FaultKind
  | reported kind _ => kind
  | noSuchContainer _ => .notFound
  | noAttribute _ _ | notWritable _ _ => .attributeError
  | notAClass _ | notADictionary _ => .typeError
  | notIterable _ | notSubscriptable _ | unhashable _ | notAPair _ => .typeError
  | cannotAdd _ _ | cannotConcatenate _ _ => .typeError
  | missingKey _ => .keyError
  | pairLength _ _ | intervalNotPositive | factorBelowOne | longNumber _ => .valueError
  | untypedAddress _ | nullInName => .valueError
  | powerOverflow | integerTooLarge | integerBeyondFloat => .overflowError
  | invalidAddress _ => .invalidUrl
  | invalidLocation _ => .remoteProtocolError
  | unencodable _ => .unicodeEncodeError
  | nestedTooDeep _ => .recursionError
  | badStatus _ => .httpStatusError
  | invalidJson _ | unexpectedHost _ | unexpectedContainers _ => .metadataError
  | clientClosed | routerNotStarted => .runtimeError
  | messageMissing | limitMismatch => .integrityError
  | unsupportedBinding _ => .programmingError
  | databaseUnavailable | diskFailure | lockFailure | tableMissing => .operationalError
  | parentIsFile => .notADirectoryError
  | nameTooLong => .osError
  | malformedBody => .jsonDecodeError

/-- Stands for the details of a syntax error in a document. -/
def syntaxDetail : String := "<detail>"

def encodingText (run : Text.Unencodable) : String :=
  let place :=
    match run.run with
    | [n] =>
      "character '" ++ String.ofList (Text.numberedChar n) ++ "' in position " ++ toString run.start
    | points =>
      "characters in position " ++ toString run.start ++ "-" ++
        toString (run.start + points.length - 1)
  "'" ++ run.encoding ++ "' codec can't encode " ++ place ++ ": " ++ run.reason

def message : Fault → String
  | reported .keyError text => Text.quoted text
  | reported _ text => text
  | noSuchContainer id => "No such container: " ++ id
  | noAttribute owner name =>
    "'" ++ owner ++ "' object has no attribute '" ++ name ++ "'"
  | notAClass typeName => "__class__ must be set to a class, not '" ++ typeName ++ "' object"
  | notADictionary typeName => "__dict__ must be set to a dictionary, not a '" ++ typeName ++ "'"
  | notWritable owner name =>
    "attribute '" ++ name ++ "' of '" ++ owner ++ "' objects is not writable"
  | notIterable typeName => "'" ++ typeName ++ "' object is not iterable"
  | notSubscriptable typeName => "'" ++ typeName ++ "' object is not subscriptable"
  | unhashable typeName => "unhashable type: '" ++ typeName ++ "'"
  | missingKey key => key.quoted
  | notAPair index =>
    "cannot convert dictionary update sequence element #" ++ toString index ++ " to a sequence"
  | pairLength index length =>
    "dictionary update sequence element #" ++ toString index ++ " has length " ++ toString length ++
      "; 2 is required"
  | cannotAdd left right =>
    "unsupported operand type(s) for +: '" ++ left ++ "' and '" ++ right ++ "'"
  | cannotConcatenate left right =>
    "can only concatenate " ++ left ++ " (not \"" ++ right ++ "\") to " ++ left
  | powerOverflow => "(34, 'Numerical result out of range')"
  | intervalNotPositive => "Poll interval minimum must be positive."
  | factorBelowOne => "Poll interval factor must be at least 1."
  | invalidAddress fault => fault.message
  | invalidLocation fault => "Invalid URL in location header: " ++ fault.message ++ "."
  | untypedAddress text => "unknown url type: " ++ Text.quoted text
  | badStatus text => text
  | invalidJson path => "Invalid JSON from " ++ path ++ ": " ++ syntaxDetail
  | unexpectedHost payload => "Unexpected self host payload: " ++ payload.quoted
  | unexpectedContainers typeName => "Unexpected containers payload: " ++ typeName
  | clientClosed => "Cannot send a request, as the client has been closed."
  | routerNotStarted => "Router is not started."
  | messageMissing => "NOT NULL constraint failed: events.message"
  | limitMismatch => "datatype mismatch"
  | unsupportedBinding binding =>
    "Error binding parameter " ++ toString binding.position ++ ": type '" ++ binding.typeName ++
      "' is not supported"
  | integerBeyondFloat => "int too large to convert to float"
  | unencodable run => encodingText run
  | integerTooLarge => "Python int too large to convert to SQLite INTEGER"
  | databaseUnavailable => "unable to open database file"
  | diskFailure => "disk I/O error"
  | lockFailure => "locking protocol"
  | tableMissing => "no such table: events"
  | parentIsFile => "[Errno 20] Not a directory"
  | nameTooLong => "[Errno 36] File name too long"
  | nullInName => "embedded null byte"
  | malformedBody => syntaxDetail
  | longNumber digits =>
    "Exceeds the limit (4300 digits) for integer string conversion: value has " ++ toString digits ++
      " digits; use sys.set_int_max_str_digits() to increase the limit"
  | nestedTooDeep container =>
    "maximum recursion depth exceeded while decoding a JSON " ++ container ++ " from a unicode string"

def isRuntime (fault : Fault) : Bool := fault.kind.isRuntime

def isMetadata (fault : Fault) : Bool := fault.kind.isMetadata

def isGone (fault : Fault) : Bool := fault.kind.isGone

theorem isRuntime_of_isGone {fault : Fault} (gone : fault.isGone = true) : fault.isRuntime = true := by
  unfold isGone at gone
  unfold isRuntime
  cases kind : fault.kind <;> simp_all [FaultKind.isGone, FaultKind.isRuntime]

def headline (fault : Fault) : String := fault.kind.label ++ ": " ++ fault.message

end Fault

abbrev Outcome := Except Fault

namespace Outcome

theorem toOption_eq_some {outcome : Outcome α} {a : α} :
    outcome.toOption = some a ↔ outcome = .ok a := by
  cases outcome <;> simp [Except.toOption]

theorem toOption_eq_none {outcome : Outcome α} :
    outcome.toOption = none ↔ ∃ fault, outcome = .error fault := by
  cases outcome <;> simp [Except.toOption]

theorem bind_eq_ok {first : Outcome α} {f : α → Outcome β} {b : β} :
    first >>= f = .ok b ↔ ∃ a, first = .ok a ∧ f a = .ok b := by
  cases first with
  | ok a =>
    constructor
    · intro reached
      exact ⟨a, rfl, reached⟩
    · rintro ⟨_, same, reached⟩
      cases same
      exact reached
  | error fault =>
    constructor
    · exact nofun
    · rintro ⟨_, impossible, _⟩
      cases impossible

end Outcome

end ContainerWarden
