import ContainerWarden.Json.Basic
import ContainerWarden.Number.Written
import ContainerWarden.Text.Quoted

namespace ContainerWarden.Json

mutual

def quoted : Json → String
  | null => "None"
  | bool true => "True"
  | bool false => "False"
  | int n => toString n
  | float x => Number.written x
  | str s => Text.quoted s
  | arr items => "[" ++ String.intercalate ", " (quotedItems items) ++ "]"
  | obj members => "\x7b" ++ String.intercalate ", " (quotedMembers members) ++ "\x7d"

def quotedItems : List Json → List String
  | [] => []
  | item :: rest => item.quoted :: quotedItems rest

def quotedMembers : List (String × Json) → List String
  | [] => []
  | (key, item) :: rest => (Text.quoted key ++ ": " ++ item.quoted) :: quotedMembers rest

end

def text : Json → String
  | str s => s
  | other => other.quoted

end ContainerWarden.Json
