import ContainerWarden.EventLog.Column
import ContainerWarden.Text.Upper

namespace ContainerWarden

structure LogEntry where
  level : Json
  message : Json
  component : Json := .null
  containerId : Json := .null

namespace LogEntry

def info (component message : String) (containerId : Json) : LogEntry :=
  ⟨.str "INFO", .str message, .str component, containerId⟩

def error (component message : String) (containerId : Json) : LogEntry :=
  ⟨.str "ERROR", .str message, .str component, containerId⟩

def levelText (entry : LogEntry) : Outcome String :=
  match entry.level with
  | .str level => .ok (Text.upper level)
  | level => .error (.noAttribute level.typeName "upper")

end LogEntry

structure LogRow where
  id : Nat
  level : String
  component : Option String
  containerId : Option String
  message : String
  deriving DecidableEq, Repr

structure EventLog where
  rows : List LogRow := []
  deriving DecidableEq, Repr

namespace EventLog

def size (log : EventLog) : Nat := log.rows.length

def rowOf (id : Nat) (entry : LogEntry) : Outcome LogRow := do
  let level ← entry.levelText
  let _ ← columnText 2 (.str level)
  let component ← columnText 3 entry.component
  let containerId ← columnText 4 entry.containerId
  match ← columnText 5 entry.message with
  | some message => return ⟨id, level, component, containerId, message⟩
  | none => throw .messageMissing

def append (log : EventLog) (entry : LogEntry) : Outcome EventLog := do
  return ⟨(← rowOf (log.size + 1) entry) :: log.rows⟩

def ofComponent (component : Option String) (rows : List LogRow) : List LogRow :=
  match component with
  | some text => rows.filter (·.component == some text)
  | none => []

def limited (limit : Int) (rows : List LogRow) : List LogRow :=
  if limit < 0 then rows else rows.take limit.toNat

def latest (log : EventLog) (limit component : Json) : Outcome (List LogRow) :=
  if component.isPresent then do
    let wanted ← columnText 1 component
    let count ← rowCount 2 limit
    return limited count (ofComponent wanted log.rows)
  else do
    let count ← rowCount 1 limit
    return limited count log.rows

def defaultLimit : Json := .int 100

def since (log : EventLog) (size : Nat) : List LogRow :=
  (log.rows.take (log.size - size)).reverse

end EventLog

end ContainerWarden
