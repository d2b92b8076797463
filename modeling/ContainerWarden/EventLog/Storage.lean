import ContainerWarden.EventLog.Basic
import ContainerWarden.FileTree

namespace ContainerWarden

abbrev Database := Option EventLog

namespace FileTree

def isFilled (tree : FileTree Database) (path : Path) : Bool :=
  match tree.get? path with
  | some (.file (some _)) => true
  | _ => false

def dropFilled (tree : FileTree Database) (path : Path) : FileTree Database :=
  if tree.isFilled path then tree.remove path else tree

theorem isFilled_congr {tree other : FileTree Database} {path : Path} (same : tree.get? path = other.get? path) :
    tree.isFilled path = other.isFilled path := by
  rw [isFilled, isFilled, same]

theorem get?_dropFilled (tree : FileTree Database) {path : Path} (below : path ≠ []) :
    (tree.dropFilled path).get? path = if tree.isFilled path then none else tree.get? path := by
  unfold dropFilled
  split
  · exact get?_remove_below tree below List.prefix_rfl
  · rfl

theorem get?_dropFilled_other (tree : FileTree Database) {dropped path : Path}
    (outside : dropped.isPrefixOf path = false) : (tree.dropFilled dropped).get? path = tree.get? path := by
  unfold dropFilled
  split
  · exact get?_remove tree outside
  · rfl

theorem isFilled_dropFilled (tree : FileTree Database) {path : Path} (below : path ≠ []) :
    (tree.dropFilled path).isFilled path = false := by
  rw [isFilled, get?_dropFilled tree below]
  cases filled : tree.isFilled path with
  | true => rfl
  | false => rwa [isFilled] at filled

theorem isDirectory_dropFilled (tree : FileTree Database) {path : Path} (below : path ≠ []) :
    (tree.dropFilled path).isDirectory path = tree.isDirectory path := by
  rw [isDirectory, get?_dropFilled tree below]
  cases filled : tree.isFilled path with
  | false => rfl
  | true =>
    unfold isFilled at filled
    split at filled
    · rename_i held
      rw [isDirectory, held]
      rfl
    · cases filled

end FileTree

structure LogStorage where
  tree : FileTree Database
  directory : Path
  configured : String
  prepared : List Path := []

/-- Steps on the storage. What a step did before it failed stays done. -/
abbrev Storing := ExceptT Fault (StateM LogStorage)

namespace LogStorage

def defaultFile : String := "hostreaper.db"

def location (storage : LogStorage) : Path :=
  let path := Path.resolve storage.directory storage.configured
  if storage.tree.isDirectory path then path ++ [defaultFile] else path

def changeTree (change : FileTree Database → FileTree Database) : Storing Unit :=
  modify fun storage => { storage with tree := change storage.tree }

def makeDirectories : List Path → Storing Unit
  | [] => pure ()
  | path :: rest => do
    let tree ← ((← get).tree.makeDirectory path : Outcome (FileTree Database))
    changeTree fun _ => tree
    makeDirectories rest

def resolve : Storing Path := do
  let storage ← get
  let path := storage.location
  makeDirectories (storage.tree.missing path.dropLast)
  return path

def longestPath : Nat := 512

def journalEnding : String := "-journal"

def walEnding : String := "-wal"

def sharedEnding : String := "-shm"

def connect : Storing (Path × Database) := do
  let path ← resolve
  (path.check : Outcome Unit)
  if longestPath < Path.octets (path.beside journalEnding).text then throw .databaseUnavailable
  let (database, tree) ← ((← get).tree.openFile path none : Outcome (Database × FileTree Database))
  changeTree fun _ => tree
  return (path, database)

/-- A database is looked at only once nothing beside it is left of other connections: a journal that would be
    rolled back, or a log that was written ahead, with what its readers share. Files with content are taken
    for such and removed, directories are in the way. The connection writes ahead from then on if the log lay
    beside a database with content. -/
def begun (tree : FileTree Database) (path : Path) : Outcome Bool × FileTree Database :=
  let filled := tree.isFilled path
  if filled && tree.isDirectory (path.beside journalEnding) then (.error .diskFailure, tree)
  else
    let tree := tree.dropFilled (path.beside journalEnding)
    if tree.isDirectory (path.beside walEnding) then
      (.error (if filled then .databaseUnavailable else .diskFailure), tree)
    else
      let ahead := filled && tree.isFilled (path.beside walEnding)
      if ahead && tree.isDirectory (path.beside sharedEnding) then (.error .lockFailure, tree)
      else
        let tree := tree.dropFilled (path.beside walEnding)
        (.ok ahead, if ahead then tree.remove (path.beside sharedEnding) else tree)

def begin (path : Path) : Storing Bool := do
  let (outcome, tree) := begun (← get).tree path
  changeTree fun _ => tree
  (outcome : Outcome Bool)

/-- A write keeps a journal beside the database while it lasts, unless it is written ahead. -/
def beginWrite (path : Path) : Bool → Storing Unit
  | true => pure ()
  | false => do
    let tree := (← get).tree
    let journal := path.beside journalEnding
    if journal.hasLongName || tree.isDirectory journal then throw .databaseUnavailable
    changeTree (·.remove journal)

def makeTable (path : Path) (ahead : Bool) : Database → Storing Unit
  | some _ => pure ()
  | none => do
    beginWrite path ahead
    changeTree fun tree => tree.put path (.file (some {}))

def prepare : Storing Unit := do
  let path ← resolve
  if (← get).prepared.contains path then return
  let (opened, database) ← connect
  let ahead ← begin opened
  makeTable opened ahead database
  modify fun storage => { storage with prepared := path :: storage.prepared }

def query (path : Path) (database : Database) : Storing (EventLog × Bool) := do
  let ahead ← begin path
  match database with
  | some log => return (log, ahead)
  | none => throw .tableMissing

def append (entry : LogEntry) : Storing Unit := do
  prepare
  let (path, database) ← connect
  let _ ← (entry.levelText : Outcome String)
  let (log, ahead) ← query path database
  let log ← (log.append entry : Outcome EventLog)
  beginWrite path ahead
  changeTree fun tree => tree.put path (.file (some log))

def openLog : Storing (Path × EventLog) := do
  prepare
  let (path, database) ← connect
  let (log, _) ← query path database
  return (path, log)

def latest (limit component : Json) : Storing (List LogRow) := do
  let (_, log) ← openLog
  (log.latest limit component : Outcome (List LogRow))

end LogStorage

end ContainerWarden
