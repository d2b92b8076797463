import ContainerWarden.Json.Basic
import ContainerWarden.Number.Reading
import ContainerWarden.Text.Encoding
import ContainerWarden.Text.Quoted

namespace ContainerWarden.Json

inductive Malformed where
  | notJson
  /-- A whole number with more digits than `digitLimit`. -/
  | longNumber (digits : Nat)
  /-- A container, an array or an object, inside more others than `depthLimit`. -/
  | tooDeep (container : String)
  deriving DecidableEq, Repr

def digitLimit : Nat := 4300

def depthLimit : Nat := 985

namespace Parser

def isSpace (c : Char) : Bool :=
  c == ' ' || c == '\t' || c == '\n' || c == '\r'

def skip (cs : List Char) : List Char := cs.dropWhile isSpace

def hexUnit? (cs : List Char) : Option Nat :=
  cs.foldlM (fun total c => (Text.hexValue? c).map (16 * total + ·)) 0

def escaped? : Char → Option Char
  | '"' => some '"'
  | '\\' => some '\\'
  | '/' => some '/'
  | 'b' => some '\x08'
  | 'f' => some '\x0c'
  | 'n' => some '\n'
  | 'r' => some '\r'
  | 't' => some '\t'
  | _ => none

inductive Piece where
  | plain (c : Char)
  | numbered (unit : Nat)

/-- Only surrogates that are both given by their numbers make a pair. -/
def written : List Piece → List Char
  | .numbered high :: .numbered low :: rest =>
    match Text.paired? high low with
    | some point => Text.written point ++ written rest
    | none => Text.written high ++ written (.numbered low :: rest)
  | .numbered unit :: rest => Text.written unit ++ written rest
  | .plain c :: rest => c :: written rest
  | [] => []

def pieces : List Piece → List Char → Except Malformed (List Piece × List Char)
  | found, '"' :: rest => .ok (found.reverse, rest)
  | found, '\\' :: 'u' :: a :: b :: c :: d :: rest =>
    match hexUnit? [a, b, c, d] with
    | some unit => pieces (.numbered unit :: found) rest
    | none => .error .notJson
  | found, '\\' :: c :: rest =>
    match escaped? c with
    | some c => pieces (.plain c :: found) rest
    | none => .error .notJson
  | found, c :: rest =>
    if c == '\\' || c.toNat < 0x20 then .error .notJson else pieces (.plain c :: found) rest
  | _, [] => .error .notJson

def text (cs : List Char) : Except Malformed (String × List Char) := do
  let (found, rest) ← pieces [] cs
  return (String.ofList (written found), rest)

def fraction (cs : List Char) : List Char × List Char :=
  match cs with
  | '.' :: rest =>
    match rest.takeWhile Char.isDigit with
    | [] => ([], cs)
    | digits => (digits, rest.dropWhile Char.isDigit)
  | _ => ([], cs)

def exponent (cs : List Char) : Option Int × List Char :=
  match cs with
  | mark :: rest =>
    if mark == 'e' || mark == 'E' then
      let (negative, rest) := match rest with
        | '-' :: rest => (true, rest)
        | '+' :: rest => (false, rest)
        | _ => (false, rest)
      match rest.takeWhile Char.isDigit with
      | [] => (none, cs)
      | digits =>
        let size : Int := Number.asciiValue digits
        (some (if negative then -size else size), rest.dropWhile Char.isDigit)
    else (none, cs)
  | [] => (none, cs)

def number (negative : Bool) (cs : List Char) : Except Malformed (Json × List Char) :=
  let whole := match cs with
    | '0' :: _ => ['0']
    | _ => cs.takeWhile Char.isDigit
  if whole.isEmpty then .error .notJson
  else
    let (decimals, rest) := fraction (cs.drop whole.length)
    let (power, rest) := exponent rest
    if decimals.isEmpty && power.isNone then
      if digitLimit < whole.length then .error (.longNumber whole.length)
      else
        let size : Int := Number.asciiValue whole
        .ok (int (if negative then -size else size), rest)
    else
      let size := Number.asciiValue (whole ++ decimals)
      .ok (float (Number.ofDecimal negative size (power.getD 0 - decimals.length)), rest)

def after? : List Char → List Char → Option (List Char)
  | [], cs => some cs
  | w :: word, c :: cs => if w == c then after? word cs else none
  | _ :: _, [] => none

def words : List (String × Json) :=
  [("null", null), ("true", bool true), ("false", bool false), ("NaN", float Number.notANumber),
    ("Infinity", float Number.infinity), ("-Infinity", float (-Number.infinity))]

def scalar (cs : List Char) : Except Malformed (Json × List Char) :=
  match words.findSome? fun (word, value) => (after? word.toList cs).map (value, ·) with
  | some found => .ok found
  | none =>
    match cs with
    | '-' :: rest => number true rest
    | _ => number false cs

mutual

def value : Nat → Nat → List Char → Except Malformed (Json × List Char)
  | 0, _, _ => .error .notJson
  | _ + 1, _, '"' :: rest => do
    let (s, rest) ← text rest
    return (str s, rest)
  | fuel + 1, depth, '[' :: rest =>
    if depthLimit ≤ depth then .error (.tooDeep "array")
    else
      match skip rest with
      | ']' :: rest => .ok (arr [], rest)
      | rest => elements fuel (depth + 1) [] rest
  | fuel + 1, depth, '{' :: rest =>
    if depthLimit ≤ depth then .error (.tooDeep "object")
    else
      match skip rest with
      | '}' :: rest => .ok (obj [], rest)
      | rest => members fuel (depth + 1) [] rest
  | _ + 1, _, cs => scalar cs

def elements : Nat → Nat → List Json → List Char → Except Malformed (Json × List Char)
  | 0, _, _, _ => .error .notJson
  | fuel + 1, depth, found, cs => do
    let (item, rest) ← value fuel depth cs
    match skip rest with
    | ']' :: rest => return (arr (item :: found).reverse, rest)
    | ',' :: rest => elements fuel depth (item :: found) (skip rest)
    | _ => throw .notJson

def members : Nat → Nat → List (String × Json) → List Char → Except Malformed (Json × List Char)
  | fuel + 1, depth, found, '"' :: rest => do
    let (key, rest) ← text rest
    match skip rest with
    | ':' :: rest =>
      let (item, rest) ← value fuel depth (skip rest)
      let found := insertMember key item found
      match skip rest with
      | '}' :: rest => return (obj found, rest)
      | ',' :: rest => members fuel depth found (skip rest)
      | _ => throw .notJson
    | _ => throw .notJson
  | _, _, _, _ => .error .notJson

end

end Parser

/-- Reads a whole text as one value. Each step of the reader takes a character, so the length of the
    text bounds its depth. -/
def parse (s : String) : Except Malformed Json := do
  let cs := Parser.skip s.toList
  let (found, rest) ← Parser.value (cs.length + 1) 0 cs
  match Parser.skip rest with
  | [] => return found
  | _ => throw .notJson

end ContainerWarden.Json
