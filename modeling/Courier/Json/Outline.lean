import Courier.Json.Basic
/-!
JSON text as it is written.

An outline keeps what the text says before any meaning is given to it: the digits of numbers, the
escapes of strings, repeated members, members that nobody asks for.  Where the text stops being
JSON, the outline holds the fault in its place, so a reader that walks an outline from front to back
meets every problem in the order of the text.
-/
namespace Courier.Json

/-- How a text stops being JSON. -/
inductive Fault where
  /-- The text ends too early. -/
  | ended
  /-- Something stands where it may not. -/
  | malformed
  deriving DecidableEq, Repr, Inhabited

/-- A piece of a string: a character, or one unit of an escape by code. -/
inductive Piece where
  | plain (c : Char)
  | unit (code : Nat)
  deriving DecidableEq, Repr, Inhabited

/-- The pieces of a string up to its closing quote or its first fault. -/
structure Quoted where
  pieces : List Piece
  fault : Option Fault
  deriving DecidableEq, Repr, Inhabited

/-- The parts of a number. -/
structure Numeral where
  negative : Bool
  whole : List Char
  fraction : Option (List Char)
  exponent : Option Int
  deriving DecidableEq, Repr, Inhabited

/-- How a list of items or members ends. -/
inductive Ending where
  | closed
  /-- The list breaks off, before or after a comma. -/
  | cut (afterComma : Bool) (fault : Fault)
  deriving DecidableEq, Repr, Inhabited

/-- A value as it is written, up to the first fault. -/
inductive Outline where
  /-- No value stands here. -/
  | broken (fault : Fault)
  | null
  | bool (b : Bool)
  | number (numeral : Numeral)
  /-- A number that breaks off. -/
  | cutNumber (fault : Fault)
  | string (text : Quoted)
  | array (items : List Outline) (ending : Ending)
  | object (members : List (Quoted × Outline)) (ending : Ending)
  deriving Repr, Inhabited

end Courier.Json
