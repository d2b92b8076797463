import ContainerWarden.Number.Binary

namespace ContainerWarden

inductive Json where
  | null
  | bool (b : Bool)
  | int (n : Int)
  | float (x : Float)
  | str (s : String)
  | arr (items : List Json)
  | obj (members : List (String × Json))
  deriving Inhabited

namespace Json

def typeName : Json → String
  | null => "NoneType"
  | bool _ => "bool"
  | int _ => "int"
  | float _ => "float"
  | str _ => "str"
  | arr _ => "list"
  | obj _ => "dict"

def isPresent : Json → Bool
  | null => false
  | bool b => b
  | int n => n != 0
  | float x => !(x == 0)
  | str s => s != ""
  | arr items => !items.isEmpty
  | obj members => !members.isEmpty

def orElse (value other : Json) : Json :=
  if value.isPresent then value else other

def isObject : Json → Bool
  | obj _ => true
  | _ => false

def isText (value : Json) (s : String) : Bool :=
  match value with
  | str t => t == s
  | _ => false

theorem isText_iff {value : Json} {s : String} : value.isText s = true ↔ value = str s := by
  cases value <;> simp [isText]

def insertMember (key : String) (value : Json) : List (String × Json) → List (String × Json)
  | [] => [(key, value)]
  | (k, v) :: rest => if k == key then (k, value) :: rest else (k, v) :: insertMember key value rest

theorem lookup_insertMember_self (key : String) (value : Json) (members : List (String × Json)) :
    (insertMember key value members).lookup key = some value := by
  induction members with
  | nil => simp [insertMember]
  | cons entry rest ih =>
    obtain ⟨name, found⟩ := entry
    by_cases same : name = key
    · simp [insertMember, same]
    · have differs : (key == name) = false := beq_false_of_ne (Ne.symm same)
      simp [insertMember, List.lookup_cons, same, differs, ih]

theorem lookup_insertMember_of_ne {key other : String} (different : other ≠ key) (value : Json)
    (members : List (String × Json)) :
    (insertMember key value members).lookup other = members.lookup other := by
  have differs : (other == key) = false := beq_false_of_ne different
  induction members with
  | nil => simp [insertMember, List.lookup_cons, differs]
  | cons entry rest ih =>
    obtain ⟨name, found⟩ := entry
    by_cases same : name = key
    · subst same
      simp [insertMember, List.lookup_cons, differs]
    · simp [insertMember, List.lookup_cons, same, ih]

def member? : Json → String → Option Json
  | obj members, key => members.lookup key
  | _, _ => none

def intIsFloat (n : Int) (x : Float) : Bool :=
  match Number.Binary.ofFloat? x with
  | none => false
  | some b =>
    let (num, den) := b.quotient
    n * den == if b.negative then -(num : Int) else num

def wholeNumber? : Json → Option Int
  | int n => some n
  | bool b => some (if b then 1 else 0)
  | _ => none

mutual

/-- Equality by value: numbers are equal across their types, objects whatever the order of members. -/
def same : Json → Json → Bool
  | null, null => true
  | str s, str t => s == t
  | float x, float y => x == y
  | float x, int n => intIsFloat n x
  | int n, float x => intIsFloat n x
  | float x, bool b => x == if b then 1 else 0
  | bool b, float x => x == if b then 1 else 0
  | int n, int m => n == m
  | int n, bool b => n == if b then 1 else 0
  | bool b, int n => n == if b then 1 else 0
  | bool a, bool b => a == b
  | arr items, arr others => sameItems items others
  | obj members, obj others => members.length == others.length && sameMembers members others
  | _, _ => false

def sameItems : List Json → List Json → Bool
  | [], [] => true
  | a :: rest, b :: others => same a b && sameItems rest others
  | _, _ => false

def sameMembers : List (String × Json) → List (String × Json) → Bool
  | [], _ => true
  | (key, value) :: rest, others =>
    (match others.lookup key with
    | some other => same value other
    | none => false) && sameMembers rest others

end

end Json

end ContainerWarden
