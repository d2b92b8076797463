import ContainerWarden.Labels

namespace ContainerWarden.Record

def member (record : Json) (key : String) : Outcome Json :=
  match record with
  | .obj members => .ok ((members.lookup key).getD .null)
  | other => .error (.noAttribute other.typeName "get")

def required (record : Json) (key : String) : Outcome Json :=
  match record with
  | .obj members =>
    match members.lookup key with
    | some value => .ok value
    | none => .error (.missingKey (.str key))
  | other => .error (.notSubscriptable other.typeName)

def textOf (value : Json) : String :=
  if value.isPresent then value.text else ""

def text (record : Json) (key : String) : Outcome String := do
  return textOf (← member record key)

def first (value : Json) : Outcome Json :=
  match value with
  | .str s => .ok (.str (Text.ofPoints ((Text.points s).take 1)))
  | .arr items => .ok (items.headD (.str ""))
  | .obj _ => .error (.missingKey (.int 0))
  | other => .error (.notSubscriptable other.typeName)

end ContainerWarden.Record
