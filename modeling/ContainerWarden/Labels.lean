import ContainerWarden.Fault

namespace ContainerWarden

structure Labels where
  entries : List (Json × Json)
  deriving Inhabited

namespace Labels

def empty : Labels := ⟨[]⟩

def insertEntry (key value : Json) : List (Json × Json) → List (Json × Json)
  | [] => [(key, value)]
  | (k, v) :: rest => if k.same key then (k, value) :: rest else (k, v) :: insertEntry key value rest

/-- A later value replaces an earlier one under an equal key, which keeps its spelling. -/
def insert (labels : Labels) (key value : Json) : Labels :=
  ⟨insertEntry key value labels.entries⟩

def get? (labels : Labels) (key : String) : Option Json :=
  (labels.entries.find? (·.1.isText key)).map (·.2)

def holds (labels : Labels) (key value : String) : Bool :=
  match labels.get? key with
  | some found => found.isText value
  | none => false

theorem holds_iff {labels : Labels} {key value : String} :
    labels.holds key value = true ↔ labels.get? key = some (.str value) := by
  unfold holds
  cases labels.get? key with
  | none => simp
  | some found => simp [Json.isText_iff]

def ofMembers (members : List (String × Json)) : Labels :=
  ⟨members.map fun (key, value) => (.str key, value)⟩

def items? : Json → Option (List Json)
  | .str s => some ((Text.points s).map fun point => .str (Text.ofPoints [point]))
  | .arr items => some items
  | .obj members => some (members.map fun (key, _) => .str key)
  | _ => none

def isKey : Json → Bool
  | .arr _ | .obj _ => false
  | _ => true

def pair (index : Nat) (element : Json) : Outcome (Json × Json) :=
  match items? element with
  | none => .error (.notAPair index)
  | some [key, value] =>
    if isKey key then .ok (key, value) else .error (.unhashable key.typeName)
  | some items => .error (.pairLength index items.length)

def addPairs (labels : Labels) : Nat → List Json → Outcome Labels
  | _, [] => .ok labels
  | index, element :: rest => do
    let (key, value) ← pair index element
    addPairs (labels.insert key value) (index + 1) rest

def ofJson (value : Json) : Outcome Labels :=
  if !value.isPresent then .ok empty
  else
    match value with
    | .obj members => .ok (ofMembers members)
    | other =>
      match items? other with
      | some items => addPairs empty 0 items
      | none => .error (.notIterable other.typeName)

end Labels

end ContainerWarden
