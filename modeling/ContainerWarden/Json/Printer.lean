import ContainerWarden.Json.Basic
import ContainerWarden.Number.Written
import ContainerWarden.Text.Quoted

namespace ContainerWarden.Json

structure Style where
  indent : Option Nat
  separator : String
  ascii : Bool

def Style.line : Style := ⟨none, ", ", true⟩

def Style.tree : Style := ⟨some 2, ",", false⟩

def unitText (n : Nat) : List Char := '\\' :: 'u' :: Text.hexDigits 4 n

def escapedPoint (ascii : Bool) (n : Nat) : List Char :=
  match Char.ofNat n with
  | '"' => ['\\', '"']
  | '\\' => ['\\', '\\']
  | '\n' => ['\\', 'n']
  | '\r' => ['\\', 'r']
  | '\t' => ['\\', 't']
  | '\x08' => ['\\', 'b']
  | '\x0c' => ['\\', 'f']
  | _ =>
    if n < 0x20 || (ascii && n == 0x7F) then unitText n
    else if !ascii || n < 0x80 then Text.written n
    else if n < 0x10000 then unitText n
    else unitText (0xD800 + (n - 0x10000) / 0x400) ++ unitText (0xDC00 + (n - 0x10000) % 0x400)

def stringText (ascii : Bool) (s : String) : String :=
  String.ofList ('"' :: (Text.points s).flatMap (escapedPoint ascii) ++ ['"'])

def Style.newline (style : Style) (level : Nat) : String :=
  match style.indent with
  | some width => String.ofList ('\n' :: List.replicate (level * width) ' ')
  | none => ""

def Style.bracket (style : Style) (level : Nat) (opening closing : String) (items : List String) :
    String :=
  if items.isEmpty then opening ++ closing
  else
    opening ++ style.newline (level + 1) ++
      String.intercalate (style.separator ++ style.newline (level + 1)) items ++
      style.newline level ++ closing

mutual

def render (style : Style) (level : Nat) : Json → String
  | null => "null"
  | bool true => "true"
  | bool false => "false"
  | int n => toString n
  | float x => Number.documentText x
  | str s => stringText style.ascii s
  | arr items => style.bracket level "[" "]" (renderItems style (level + 1) items)
  | obj members => style.bracket level "\x7b" "\x7d" (renderMembers style (level + 1) members)

def renderItems (style : Style) (level : Nat) : List Json → List String
  | [] => []
  | item :: rest => render style level item :: renderItems style level rest

def renderMembers (style : Style) (level : Nat) : List (String × Json) → List String
  | [] => []
  | (key, item) :: rest =>
    (stringText style.ascii key ++ ": " ++ render style level item) ::
      renderMembers style level rest

end

def line (value : Json) : String := value.render .line 0

def tree (value : Json) : String := value.render .tree 0

end ContainerWarden.Json
