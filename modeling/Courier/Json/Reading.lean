import Courier.Json.Scan
import Courier.Json.Printer
import Courier.Text.Quoted
/-!
Reading values of a known shape from JSON text.

A reader walks an outline from front to back and stops at the first problem.  At most 127 arrays and
objects may be open at once, so a reader carries the room that is left.  Members nobody asks for only
have to be well formed: neither the room, the range of their numbers nor the pairing of their escapes
is looked at.
-/
namespace Courier.Json

/-- What stands in a text where something else was expected. -/
inductive Found where
  | null
  | bool (b : Bool)
  | integer (n : Int)
  | double (x : Double)
  | string (s : String)
  | sequence
  | map
  deriving DecidableEq, Repr, Inhabited

def Found.text : Found → String
  | .null => "null"
  | .bool b => s!"boolean `{b}`"
  | .integer n => s!"integer `{String.ofList (integerText n)}`"
  | .double x => s!"floating point `{String.ofList (numberText x)}`"
  | .string s => s!"string {Text.quoted s}"
  | .sequence => "sequence"
  | .map => "map"

/-- How well-formed JSON fails to be a value of the expected shape. -/
inductive Mismatch where
  | wrongType (found : Found) (expected : String)
  | outOfRange (found : Int) (expected : String)
  | wrongLength (length : Nat) (record : String) (size : Nat)
  | tooLong (length : Nat)
  | repeatedMember (name : String)
  | missingMember (name : String)
  deriving DecidableEq, Repr, Inhabited

def Mismatch.message : Mismatch → String
  | .wrongType found expected => s!"invalid type: {found.text}, expected {expected}"
  | .outOfRange found expected =>
    s!"invalid value: integer `{String.ofList (integerText found)}`, expected {expected}"
  | .wrongLength length record size =>
    s!"invalid length {length}, expected struct {record} with {size} elements"
  | .tooLong length => s!"invalid length {length}, expected fewer elements in array"
  | .repeatedMember name => s!"duplicate field `{name}`"
  | .missingMember name => s!"missing field `{name}`"

/-- Why a text is not read: it is no JSON, or not of the expected shape. -/
inductive Problem where
  | fault (fault : Fault)
  | mismatch (mismatch : Mismatch)
  deriving DecidableEq, Repr, Inhabited

def Problem.malformed : Problem := .fault .malformed

/-- How many arrays and objects may be open at once. -/
def maxRoom : Nat := 127

/-- Greatest integer that is kept as one. -/
def maxInteger : Nat := 0xFFFFFFFFFFFFFFFF

/-- Take digits into a significand while it stays in 64 bits, and count those that are left. -/
def absorb (significand : Nat) : List Char → Nat × Nat
  | [] => (significand, 0)
  | c :: rest =>
    let next := significand * 10 + (c.toNat - '0'.toNat)
    if maxInteger < next then (significand, rest.length + 1) else absorb next rest

/-- The value of a number: an integer when it is written as one and fits, otherwise floating point.
Digits past 64 bits only move the point; past the range there is no value. -/
def Numeral.value? (n : Numeral) : Option Json :=
  let (significand, left) := absorb 0 n.whole
  let sign (x : Double) : Json := .double (if n.negative then -x else x)
  if left = 0 ∧ n.fraction = none ∧ n.exponent = none then
    if !n.negative then some (.integer significand)
    else if significand = 0 ∨ 0x8000000000000000 < significand then some (sign (Double.ofNat significand))
    else some (.integer (-significand))
  else
    let fraction := n.fraction.getD []
    let (significand, unread) := absorb significand fraction
    let exponent := (left : Int) - (fraction.length - unread : Nat) + n.exponent.getD 0
    (Double.scaled? significand exponent).map sign

/-- The characters of a string.  Escapes by code of the upper and lower half of a pair have to stand
side by side. -/
def joinPieces : List Piece → Except Problem (List Char)
  | [] => .ok []
  | .plain c :: rest => (c :: ·) <$> joinPieces rest
  | .unit high :: rest =>
    if 0xD800 ≤ high ∧ high ≤ 0xDBFF then
      match rest with
      | .unit low :: rest =>
        if 0xDC00 ≤ low ∧ low ≤ 0xDFFF then
          (Char.ofNat ((high - 0xD800) * 0x400 + (low - 0xDC00) + 0x10000) :: ·) <$> joinPieces rest
        else .error .malformed
      | _ => .error .malformed
    else if 0xDC00 ≤ high ∧ high ≤ 0xDFFF then .error .malformed
    else (Char.ofNat high :: ·) <$> joinPieces rest

/-- The first half of a pair stands at the end of the pieces. -/
def endsInHalf : List Piece → Bool
  | [] => false
  | [.unit code] => 0xD800 ≤ code && code ≤ 0xDBFF
  | _ :: rest => endsInHalf rest

/-- The text of a string.  A string that breaks off right behind the first half of a pair has the
fault of its end. -/
def Quoted.read (q : Quoted) : Except Problem String :=
  match q.fault with
  | none => String.ofList <$> joinPieces q.pieces
  | some fault => do
    let whole := if endsInHalf q.pieces then q.pieces.dropLast else q.pieces
    let _ ← joinPieces whole
    .error (.fault fault)

mutual

/-- Pass over a value that nobody asks for. -/
def Outline.skip : Outline → Except Problem Unit
  | .broken fault => .error (.fault fault)
  | .cutNumber _ => .error .malformed
  | .null | .bool _ | .number _ => .ok ()
  | .string text => skipQuoted text
  | .array items ending => do skipItems items; skipEnding ending
  | .object members ending => do skipMembers members; skipEnding ending
termination_by structural x => x

def skipItems : List Outline → Except Problem Unit
  | [] => .ok ()
  | item :: rest => do item.skip; skipItems rest
termination_by structural x => x

def skipMember : Quoted × Outline → Except Problem Unit
  | (name, value) => do skipQuoted name; value.skip
termination_by structural x => x

def skipMembers : List (Quoted × Outline) → Except Problem Unit
  | [] => .ok ()
  | member :: rest => do skipMember member; skipMembers rest
termination_by structural x => x

def skipQuoted (text : Quoted) : Except Problem Unit :=
  match text.fault with
  | none => .ok ()
  | some fault => .error (.fault fault)

def skipEnding : Ending → Except Problem Unit
  | .closed => .ok ()
  | .cut _ fault => .error (.fault fault)

end

/-- Go on if the list of an array or object is closed. -/
def Ending.close (ending : Ending) : Except Problem Unit :=
  match ending with
  | .closed => .ok ()
  | .cut _ fault => .error (.fault fault)

/-- The room inside one more array or object. -/
def enter (room : Nat) : Except Problem Nat :=
  match room with
  | 0 => .error .malformed
  | room + 1 => .ok room

def Numeral.read (n : Numeral) : Except Problem Json :=
  match n.value? with
  | some value => .ok value
  | none => .error .malformed

mutual

def Outline.readValue (room : Nat) : Outline → Except Problem Json
  | .broken fault => .error (.fault fault)
  | .cutNumber fault => .error (.fault fault)
  | .null => .ok .null
  | .bool b => .ok (.bool b)
  | .number n => n.read
  | .string text => Json.string <$> text.read
  | .array items ending => do
    let room ← enter room
    let items ← readValues room items
    ending.close
    pure (.array items)
  | .object members ending => do
    let room ← enter room
    let members ← readMembers room members
    ending.close
    pure (Json.ofMembers members)
termination_by structural x => x

def readValues (room : Nat) : List Outline → Except Problem (List Json)
  | [] => .ok []
  | item :: rest => do
    let value ← item.readValue room
    let values ← readValues room rest
    pure (value :: values)
termination_by structural x => x

def readMember (room : Nat) : Quoted × Outline → Except Problem (String × Json)
  | (name, value) => do
    let name ← name.read
    let value ← value.readValue room
    pure (name, value)
termination_by structural x => x

def readMembers (room : Nat) :
    List (Quoted × Outline) → Except Problem (List (String × Json))
  | [] => .ok []
  | member :: rest => do
    let member ← readMember room member
    let members ← readMembers room rest
    pure (member :: members)
termination_by structural x => x

end

/-- What stands where something else was expected. -/
def Outline.found : Outline → Except Problem Found
  | .broken fault => .error (.fault fault)
  | .cutNumber fault => .error (.fault fault)
  | .null => .ok .null
  | .bool b => .ok (.bool b)
  | .number n => do
    match ← n.read with
    | .integer n => pure (.integer n)
    | .double x => pure (.double x)
    | _ => pure .null
  | .string text => Found.string <$> text.read
  | .array _ _ => .ok .sequence
  | .object _ _ => .ok .map

/-- Refuse what stands in the text. -/
def Outline.refuse {α : Type} (expected : String) (o : Outline) : Except Problem α := do
  let found ← o.found
  throw (.mismatch (.wrongType found expected))

def Outline.readString : Outline → Except Problem String
  | .string text => text.read
  | o => o.refuse "a string"

/-- Read an integer of a range. -/
def Outline.readInteger (low high : Int) (expected : String) (o : Outline) : Except Problem Int :=
  match o with
  | .number n => do
    match ← n.read with
    | .integer n =>
      if low ≤ n ∧ n ≤ high then pure n else throw (.mismatch (.outOfRange n expected))
    | _ => o.refuse expected
  | _ => o.refuse expected

def Outline.isNull : Outline → Bool
  | .null => true
  | _ => false

def Outline.readList {α : Type} (read : Nat → Outline → Except Problem α) (room : Nat)
    (o : Outline) : Except Problem (List α) :=
  match o with
  | .array items ending => do
    let room ← enter room
    let values ← items.mapM (read room)
    ending.close
    pure values
  | _ => o.refuse "a sequence"

def Outline.readObject (room : Nat) (o : Outline) : Except Problem Members :=
  match o with
  | .object _ _ => do
    match ← o.readValue room with
    | .object members => pure members
    | _ => pure []
  | _ => o.refuse "a map"

/-- One member of a record: its name, whether it may be missing, and how it fills the record. -/
structure Member (ι σ : Type) where
  name : String
  required : Bool
  fill : Nat → ι → σ → Except Problem σ

/-- A record: the name that messages use, what it is before any member is read, and its members in
order. -/
structure Record (ι σ : Type) where
  name : String
  blank : σ
  members : List (Member ι σ)

namespace Record

variable {ι ν σ : Type}

/-- Fill a record from the items of an array, in the order of its members.  Members that may be
missing may do so at the end.  `close` is what the end of the items takes, and `finish` what those
take that are left over. -/
def fillItems (record : Record ι σ) (room : Nat) (close : Except Problem Unit)
    (finish : List ι → Except Problem Unit) :
    (members : List (Member ι σ)) → (index : Nat) → List ι → σ → Except Problem σ
  | [], _, items, filled => do
    finish items
    pure filled
  | member :: members, index, item :: items, filled => do
    let filled ← member.fill room item filled
    fillItems record room close finish members (index + 1) items filled
  | member :: members, index, [], filled => do
    close
    if member.required then
      throw (.mismatch (.wrongLength index record.name record.members.length))
    else fillItems record room close finish members (index + 1) [] filled

/-- Fill a record from the members of an object, `seen` being those that were met already. -/
def fillMembers (record : Record ι σ) (room : Nat) (readName : ν → Except Problem String)
    (skip : ι → Except Problem Unit) (close : Except Problem Unit) :
    (seen : List String) → List (ν × ι) → σ → Except Problem σ
  | seen, [], filled => do
    close
    match record.members.find? fun member => member.required && !seen.contains member.name with
    | some member => throw (.mismatch (.missingMember member.name))
    | none => pure filled
  | seen, (name, value) :: rest, filled => do
    let name ← readName name
    match record.members.find? fun member => member.name == name with
    | some member =>
      if seen.contains name then throw (.mismatch (.repeatedMember name))
      else
        let filled ← member.fill room value filled
        fillMembers record room readName skip close (name :: seen) rest filled
    | none =>
      skip value
      fillMembers record room readName skip close seen rest filled

end Record

/-- What the end of an array takes when all members of a record were filled. -/
def Ending.finish (ending : Ending) (items : List Outline) : Except Problem Unit :=
  match items, ending with
  | _ :: _, _ | [], .cut true _ => .error .malformed
  | [], ending => ending.close

/-- Read a record from an object or from an array. -/
def Outline.readRecord {σ : Type} (record : Record Outline σ) (room : Nat) (o : Outline) :
    Except Problem σ :=
  match o with
  | .array items ending => do
    let room ← enter room
    record.fillItems room ending.close ending.finish record.members 0 items record.blank
  | .object members ending => do
    let room ← enter room
    record.fillMembers room Quoted.read Outline.skip ending.close [] members record.blank
  | _ => o.refuse s!"struct {record.name}"

/-- Something to read values of a known shape from. -/
class Source (ι : Type) where
  isNull : ι → Bool
  readString : ι → Except Problem String
  /-- Read an integer of a range. -/
  readInteger : (low high : Int) → (expected : String) → ι → Except Problem Int
  /-- Read a list of values. -/
  readList {α : Type} : (Nat → ι → Except Problem α) → Nat → ι → Except Problem (List α)
  /-- Read an object with any members. -/
  readObject : Nat → ι → Except Problem Members
  readRecord {σ : Type} : Record ι σ → Nat → ι → Except Problem σ

instance : Source Outline where
  isNull := Outline.isNull
  readString := Outline.readString
  readInteger := Outline.readInteger
  readList := Outline.readList
  readObject := Outline.readObject
  readRecord := Outline.readRecord

namespace Source

variable {ι : Type} [Source ι]

/-- Read an integer of 64 bits with a sign. -/
def readInt64 (x : ι) : Except Problem Int64 :=
  Int64.ofInt <$> readInteger (-0x8000000000000000) 0x7FFFFFFFFFFFFFFF "i64" x

def readUInt64 (x : ι) : Except Problem UInt64 :=
  (fun n => UInt64.ofNat n.toNat) <$> readInteger 0 maxInteger "u64" x

/-- Read a value that may be null. -/
def readOption {α : Type} (read : ι → Except Problem α) (x : ι) : Except Problem (Option α) :=
  if isNull x then .ok none else some <$> read x

end Source

/-- Read a whole text.  Nothing but gaps may stand behind the value. -/
def readText {α : Type} (read : Nat → Outline → Except Problem α) (text : String) :
    Except Problem α :=
  match scan text.toList with
  | (o, behind) => do
    let value ← read maxRoom o
    if (skipGaps (behind.getD [])).isEmpty then pure value else throw .malformed

/-- Read a text as a value of any shape. -/
def parse (text : String) : Except Problem Json :=
  readText (fun room o => o.readValue room) text

end Courier.Json
