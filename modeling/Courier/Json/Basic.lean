import Courier.Double.Basic
/-!
JSON values.

Integers and floating-point numbers are told apart, and the members of an object stand in the order
of their names.
-/
namespace Courier

/-- A JSON value.  The members of an object that was built with `insert` are sorted by name. -/
inductive Json where
  | null
  | bool (b : Bool)
  | integer (n : Int)
  | double (x : Double)
  | string (s : String)
  | array (items : List Json)
  | object (members : List (String × Json))
  deriving Repr, Inhabited

namespace Json

/-- The named members of an object. -/
abbrev Members := List (String × Json)

namespace Members

/-- Put a member in its place among sorted ones; one of the same name is replaced. -/
def insert (name : String) (value : Json) : Members → Members
  | [] => [(name, value)]
  | (other, held) :: rest =>
    if name < other then (name, value) :: (other, held) :: rest
    else if name = other then (name, value) :: rest
    else (other, held) :: insert name value rest

/-- The sorted members of a list in which a later one of the same name wins. -/
def ofList (list : List (String × Json)) : Members :=
  list.foldl (fun members member => insert member.1 member.2 members) []

def get? (name : String) : Members → Option Json
  | [] => none
  | (other, held) :: rest => if name = other then some held else get? name rest

def names (members : Members) : List String := members.map Prod.fst

/-- The names are strictly increasing. -/
def Sorted (members : Members) : Prop := members.names.Pairwise (· < ·)

end Members

def ofMembers (list : List (String × Json)) : Json := .object (Members.ofList list)

/-- The value at a path of member names. -/
def at? : List String → Json → Option Json
  | [], value => some value
  | name :: path, .object members => (Members.get? name members).bind (at? path)
  | _ :: _, _ => none

def text? : Json → Option String
  | .string s => some s
  | _ => none

mutual

/-- Equality of values as numbers: both zeros of floating point are the same value. -/
def same : Json → Json → Bool
  | .null, .null => true
  | .bool a, .bool b => a == b
  | .integer m, .integer n => m == n
  | .double x, .double y => x.le y && y.le x
  | .string s, .string t => s == t
  | .array xs, .array ys => sameItems xs ys
  | .object xs, .object ys => sameMembers xs ys
  | _, _ => false
termination_by structural x => x

def sameItems : List Json → List Json → Bool
  | [], [] => true
  | x :: xs, y :: ys => same x y && sameItems xs ys
  | _, _ => false
termination_by structural x => x

def sameMember : String × Json → String × Json → Bool
  | (k, x), (l, y) => k == l && same x y
termination_by structural x => x

def sameMembers : List (String × Json) → List (String × Json) → Bool
  | [], [] => true
  | x :: xs, y :: ys => sameMember x y && sameMembers xs ys
  | _, _ => false
termination_by structural x => x

end

end Json

end Courier
