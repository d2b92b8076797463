import ContainerWarden.Fault

namespace ContainerWarden

abbrev Path := List String

namespace Path

def enter (path : Path) (component : String) : Path :=
  if component == "" || component == "." then path
  else if component == ".." then path.dropLast
  else path ++ [component]

def resolve (directory : Path) (written : String) : Path :=
  let start := if written.startsWith "/" then [] else directory
  (Text.pieces '/' written).foldl enter start

def text (path : Path) : String := "/" ++ String.intercalate "/" path

def longest : Nat := 4095

def longestName : Nat := 255

/-- The surrogates that stand for octets of names that are no texts. -/
def isNameOctet (unit : Nat) : Bool := 0xDC80 ≤ unit && unit < 0xDD00

def octets (name : String) : Nat :=
  (Text.points name).foldl
    (fun size n => size + if isNameOctet n then 1 else (Text.pointOctets n).length) 0

def hasLongName (path : Path) : Bool := longestName < octets (path.getLastD "")

/-- A path that is to be made or opened can be written in octets, none of which is zero. -/
def check (path : Path) : Outcome Unit :=
  match Text.unencodableBut? isNameOctet path.text with
  | some run => .error (.unencodable run)
  | none => if path.text.toList.contains '\x00' then .error .nullInName else .ok ()

def beside (path : Path) (ending : String) : Path := path.dropLast ++ [path.getLastD "" ++ ending]

def ancestors (path : Path) : List Path :=
  (List.range path.length).map path.take

end Path

inductive FileNode (α : Type) where
  | directory
  | file (content : α)
  deriving DecidableEq, Repr

structure FileTree (α : Type) where
  entries : List (Path × FileNode α)
  deriving DecidableEq, Repr

namespace FileTree

def get? (tree : FileTree α) (path : Path) : Option (FileNode α) :=
  if path.isEmpty then some .directory else tree.entries.lookup path

def isDirectory (tree : FileTree α) (path : Path) : Bool :=
  match tree.get? path with
  | some .directory => true
  | _ => false

def exists? (tree : FileTree α) (path : Path) : Bool := (tree.get? path).isSome

def putEntry (path : Path) (node : FileNode α) :
    List (Path × FileNode α) → List (Path × FileNode α)
  | [] => [(path, node)]
  | (p, old) :: rest => if p == path then (p, node) :: rest else (p, old) :: putEntry path node rest

theorem lookup_putEntry (path : Path) (node : FileNode α) (entries : List (Path × FileNode α)) :
    (putEntry path node entries).lookup path = some node := by
  induction entries with
  | nil => simp [putEntry]
  | cons entry rest ih =>
    obtain ⟨p, old⟩ := entry
    unfold putEntry
    by_cases same : p = path
    · simp [same]
    · have other : (path == p) = false := by simpa using fun h => same h.symm
      simp [same, List.lookup_cons, other, ih]

theorem lookup_putEntry_other {path other : Path} (different : other ≠ path) (node : FileNode α)
    (entries : List (Path × FileNode α)) :
    (putEntry path node entries).lookup other = entries.lookup other := by
  have differs : (other == path) = false := by simpa using different
  induction entries with
  | nil => simp [putEntry, List.lookup_cons, differs]
  | cons entry rest ih =>
    obtain ⟨p, old⟩ := entry
    unfold putEntry
    by_cases same : p = path
    · subst same
      simp [List.lookup_cons, differs]
    · by_cases found : other = p
      · simp [same, found]
      · have missed : (other == p) = false := by simpa using found
        simp [same, List.lookup_cons, missed, ih]

def put (tree : FileTree α) (path : Path) (node : FileNode α) : FileTree α :=
  ⟨putEntry path node tree.entries⟩

theorem get?_put (tree : FileTree α) {path : Path} (below : path ≠ []) (node : FileNode α) :
    (tree.put path node).get? path = some node := by
  simp [get?, put, below, lookup_putEntry]

theorem get?_put_other (tree : FileTree α) {path other : Path} (different : other ≠ path)
    (node : FileNode α) : (tree.put path node).get? other = tree.get? other := by
  simp [get?, put, lookup_putEntry_other different]

def remove (tree : FileTree α) (path : Path) : FileTree α :=
  ⟨tree.entries.filter fun (p, _) => !path.isPrefixOf p⟩

theorem lookup_removed (removed path : Path) (entries : List (Path × FileNode α)) :
    (entries.filter fun (p, _) => !removed.isPrefixOf p).lookup path =
      if removed.isPrefixOf path then none else entries.lookup path := by
  induction entries with
  | nil => simp
  | cons entry rest ih =>
    obtain ⟨p, node⟩ := entry
    by_cases same : path = p
    · subst same
      cases inside : removed.isPrefixOf path with
      | true => simp [inside, ih]
      | false => simp [inside]
    · have other : (path == p) = false := by simpa using same
      cases inside : removed.isPrefixOf p with
      | true => simp [inside, ih, List.lookup_cons, other]
      | false => simp [inside, ih, List.lookup_cons, other]

theorem get?_remove (tree : FileTree α) {removed path : Path}
    (outside : removed.isPrefixOf path = false) : (tree.remove removed).get? path = tree.get? path := by
  simp [get?, remove, lookup_removed, outside]

theorem get?_remove_below (tree : FileTree α) {removed path : Path} (below : removed ≠ [])
    (front : removed <+: path) : (tree.remove removed).get? path = none := by
  have some : path ≠ [] := by
    rintro rfl
    exact below (List.prefix_nil.mp front)
  simp [get?, remove, lookup_removed, some, List.isPrefixOf_iff_prefix.mpr front]

theorem isDirectory_congr {tree other : FileTree α} {path : Path} (same : tree.get? path = other.get? path) :
    tree.isDirectory path = other.isDirectory path := by
  rw [isDirectory, isDirectory, same]

def makeDirectory (tree : FileTree α) (path : Path) : Outcome (FileTree α) := do
  path.check
  if Path.longest < Path.octets path.text then throw .nameTooLong
  else if !tree.isDirectory path.dropLast then throw .parentIsFile
  else if path.hasLongName then throw .nameTooLong
  else return tree.put path .directory

def missing (tree : FileTree α) (path : Path) : List Path :=
  (path.ancestors ++ [path]).filter fun p => !tree.exists? p

def openFile (tree : FileTree α) (path : Path) (fresh : α) : Outcome (α × FileTree α) :=
  match tree.get? path with
  | some (.file content) => .ok (content, tree)
  | some .directory => .error .databaseUnavailable
  | none =>
    if tree.isDirectory path.dropLast && !path.hasLongName then
      .ok (fresh, tree.put path (.file fresh))
    else .error .databaseUnavailable

end FileTree

end ContainerWarden
