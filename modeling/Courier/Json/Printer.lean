import Courier.Json.Basic
import Courier.Double.Shortest
/-!
JSON text of values: compact, without any blank, and pretty, with two blanks for each level.
-/
namespace Courier.Json

/-- A decimal point is written from five places behind it to sixteen before it, and a whole number
keeps one place; anything else has an exponent. -/
def numberLayout : Double.Layout where
  positional point := decide (-5 < point) && decide (point ≤ 16)
  wholeMark := ".0".toList
  nan := "null".toList
  infinity := "null".toList

/-- One character of a string: quotes, backslashes and control characters are escaped. -/
def escapeChar (c : Char) : List Char :=
  if c = '"' then ['\\', '"']
  else if c = '\\' then ['\\', '\\']
  else if c = '\n' then ['\\', 'n']
  else if c = '\r' then ['\\', 'r']
  else if c = '\t' then ['\\', 't']
  else if c = '\x08' then ['\\', 'b']
  else if c = '\x0c' then ['\\', 'f']
  else if c.toNat < 32 then
    ['\\', 'u', '0', '0', Nat.digitChar (c.toNat / 16), Nat.digitChar (c.toNat % 16)]
  else [c]

def quote (s : String) : List Char :=
  '"' :: (s.toList.flatMap escapeChar ++ ['"'])

def integerText (n : Int) : List Char :=
  if n < 0 then '-' :: Nat.toDigits 10 n.natAbs else Nat.toDigits 10 n.natAbs

/-- A number; JSON has no word for one that is not finite. -/
def numberText (x : Double) : List Char :=
  match x with
  | .finite _ _ => x.write numberLayout
  | _ => numberLayout.nan

mutual

def render : Json → List Char
  | .null => "null".toList
  | .bool true => "true".toList
  | .bool false => "false".toList
  | .integer n => integerText n
  | .double x => numberText x
  | .string s => quote s
  | .array [] => ['[', ']']
  | .array (item :: rest) => '[' :: (render item ++ renderItems rest)
  | .object [] => ['\x7b', '\x7d']
  | .object (member :: rest) => '\x7b' :: (renderMember member ++ renderMembers rest)
termination_by structural x => x

/-- The items after the first one, and the closing bracket. -/
def renderItems : List Json → List Char
  | [] => [']']
  | item :: rest => ',' :: (render item ++ renderItems rest)
termination_by structural x => x

def renderMember : String × Json → List Char
  | (name, value) => quote name ++ ':' :: render value
termination_by structural x => x

/-- The members after the first one, and the closing brace. -/
def renderMembers : List (String × Json) → List Char
  | [] => ['\x7d']
  | member :: rest => ',' :: (renderMember member ++ renderMembers rest)
termination_by structural x => x

end

def compact (value : Json) : String := String.ofList value.render

def lineBreak (level : Nat) : List Char := '\n' :: List.replicate (2 * level) ' '

mutual

/-- The text of a value on lines of its own, its parts one level deeper than `level`. -/
def renderPretty (level : Nat) : Json → List Char
  | .null => "null".toList
  | .bool true => "true".toList
  | .bool false => "false".toList
  | .integer n => integerText n
  | .double x => numberText x
  | .string s => quote s
  | .array [] => ['[', ']']
  | .array (item :: rest) =>
    '[' :: (lineBreak (level + 1) ++ renderPretty (level + 1) item ++ prettyItems level rest)
  | .object [] => ['\x7b', '\x7d']
  | .object (member :: rest) =>
    '\x7b' :: (lineBreak (level + 1) ++ prettyMember (level + 1) member ++ prettyMembers level rest)
termination_by structural x => x

def prettyItems (level : Nat) : List Json → List Char
  | [] => lineBreak level ++ [']']
  | item :: rest =>
    ',' :: (lineBreak (level + 1) ++ renderPretty (level + 1) item ++ prettyItems level rest)
termination_by structural x => x

def prettyMember (level : Nat) : String × Json → List Char
  | (name, value) => quote name ++ ':' :: ' ' :: renderPretty level value
termination_by structural x => x

def prettyMembers (level : Nat) : List (String × Json) → List Char
  | [] => lineBreak level ++ ['\x7d']
  | member :: rest =>
    ',' :: (lineBreak (level + 1) ++ prettyMember (level + 1) member ++ prettyMembers level rest)
termination_by structural x => x

end

def pretty (value : Json) : String := String.ofList (renderPretty 0 value)

end Courier.Json
