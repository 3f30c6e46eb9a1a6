import Courier.Json.Reading
/-!
Reading values of a known shape from JSON values.

A value was read already, so that nothing but its shape can be wrong.  How many arrays and objects are
open at once does not matter any more.
-/
namespace Courier.Json

/-- What a value is, where something else was expected. -/
def found : Json → Found
  | .null => .null
  | .bool b => .bool b
  | .integer n => .integer n
  | .double x => .double x
  | .string s => .string s
  | .array _ => .sequence
  | .object _ => .map

def refuse {α : Type} (expected : String) (value : Json) : Except Problem α :=
  .error (.mismatch (.wrongType value.found expected))

def isNull : Json → Bool
  | .null => true
  | _ => false

def asString : Json → Except Problem String
  | .string s => .ok s
  | value => value.refuse "a string"

/-- The integer of a range that a value is. -/
def asInteger (low high : Int) (expected : String) : Json → Except Problem Int
  | .integer n =>
    if low ≤ n ∧ n ≤ high then .ok n else .error (.mismatch (.outOfRange n expected))
  | value => value.refuse expected

def asList {α : Type} (read : Nat → Json → Except Problem α) (room : Nat) :
    Json → Except Problem (List α)
  | .array items => items.mapM (read room)
  | value => value.refuse "a sequence"

def asObject : Json → Except Problem Members
  | .object members => .ok members
  | value => value.refuse "a map"

/-- The record that an object or an array is. -/
def asRecord {σ : Type} (record : Record Json σ) (room : Nat) : Json → Except Problem σ
  | .array items =>
    let finish (left : List Json) : Except Problem Unit :=
      if left.isEmpty then .ok () else .error (.mismatch (.tooLong items.length))
    record.fillItems room (.ok ()) finish record.members 0 items record.blank
  | .object members =>
    record.fillMembers room .ok (fun _ => .ok ()) (.ok ()) [] members record.blank
  | value => value.refuse s!"struct {record.name}"

instance : Source Json where
  isNull := isNull
  readString := asString
  readInteger := asInteger
  readList := asList
  readObject := fun _ => asObject
  readRecord := asRecord

end Courier.Json
