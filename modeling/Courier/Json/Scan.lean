import Courier.Json.Outline
/-!
The outline of a text.

Each scanner takes the text from where its part starts and gives the part with the text behind it;
there is no text behind a part with a fault, because nothing is looked at any more.
-/
namespace Courier.Json

/-- The blanks between tokens. -/
def isGap (c : Char) : Bool := c = ' ' || c = '\n' || c = '\t' || c = '\r'

def skipGaps (cs : List Char) : List Char := cs.dropWhile isGap

def hexValue? (c : Char) : Option Nat :=
  if '0' ≤ c ∧ c ≤ '9' then some (c.toNat - '0'.toNat)
  else if 'a' ≤ c ∧ c ≤ 'f' then some (c.toNat - 'a'.toNat + 10)
  else if 'A' ≤ c ∧ c ≤ 'F' then some (c.toNat - 'A'.toNat + 10)
  else none

/-- The value of four hexadecimal digits. -/
def hexUnit? (a b c d : Char) : Option Nat := do
  pure ((((← hexValue? a) * 16 + (← hexValue? b)) * 16 + (← hexValue? c)) * 16 + (← hexValue? d))

/-- The character behind a backslash. -/
def letterEscape? (c : Char) : Option Char :=
  match c with
  | '"' => some '"'
  | '\\' => some '\\'
  | '/' => some '/'
  | 'b' => some '\x08'
  | 'f' => some '\x0c'
  | 'n' => some '\n'
  | 'r' => some '\r'
  | 't' => some '\t'
  | _ => none

/-- The number of bytes of a text in UTF-8. -/
def utf8Length (cs : List Char) : Nat := cs.foldr (fun c n => c.utf8Size + n) 0

/-- What a scanner gives: its part, and the text behind a part without a fault. -/
abbrev Scanned (α : Type) := α × Option (List Char)

/-- Put a piece in front of the pieces scanned behind it. -/
def pushPiece (piece : Piece) (scanned : Scanned Quoted) : Scanned Quoted :=
  (⟨piece :: scanned.1.pieces, scanned.1.fault⟩, scanned.2)

/-- A string that stops with a fault. -/
def stopQuoted (fault : Fault) : Scanned Quoted := (⟨[], some fault⟩, none)

/-- The string behind an opening quote.  An escape by code needs four bytes; with fewer the text
counts as ended whatever they are. -/
def scanQuoted : List Char → Scanned Quoted
  | [] => stopQuoted .ended
  | '"' :: rest => (⟨[], none⟩, some rest)
  | ['\\'] => stopQuoted .ended
  | '\\' :: 'u' :: a :: b :: c :: d :: rest =>
    match hexUnit? a b c d with
    | some code => pushPiece (.unit code) (scanQuoted rest)
    | none => stopQuoted .malformed
  | '\\' :: 'u' :: rest => stopQuoted (if utf8Length rest < 4 then .ended else .malformed)
  | '\\' :: c :: rest =>
    match letterEscape? c with
    | some c => pushPiece (.plain c) (scanQuoted rest)
    | none => stopQuoted .malformed
  | c :: rest =>
    if c.toNat < 32 then stopQuoted .malformed else pushPiece (.plain c) (scanQuoted rest)

/-- A part that needs a digit and finds none. -/
def missingDigit (rest : List Char) : Scanned Outline :=
  (.cutNumber (if rest.isEmpty then .ended else .malformed), none)

/-- The exponent of a number, if it has one. -/
def scanExponent (negative : Bool) (whole : List Char) (fraction : Option (List Char))
    (cs : List Char) : Scanned Outline :=
  let finish (minus : Bool) (rest : List Char) : Scanned Outline :=
    let digits := rest.takeWhile Char.isDigit
    let power : Int := Nat.ofDigitChars 10 digits 0
    if digits.isEmpty then missingDigit rest
    else
      (.number ⟨negative, whole, fraction, some (if minus then -power else power)⟩,
        some (rest.dropWhile Char.isDigit))
  match cs with
  | 'e' :: '+' :: rest | 'E' :: '+' :: rest => finish false rest
  | 'e' :: '-' :: rest | 'E' :: '-' :: rest => finish true rest
  | 'e' :: rest | 'E' :: rest => finish false rest
  | _ => (.number ⟨negative, whole, fraction, none⟩, some cs)

/-- The fraction and the exponent of a number. -/
def scanFraction (negative : Bool) (whole : List Char) (cs : List Char) : Scanned Outline :=
  match cs with
  | '.' :: rest =>
    let digits := rest.takeWhile Char.isDigit
    if digits.isEmpty then missingDigit rest
    else scanExponent negative whole (some digits) (rest.dropWhile Char.isDigit)
  | _ => scanExponent negative whole none cs

/-- A number behind its sign.  A zero in front has no digit behind it. -/
def scanNumber (negative : Bool) (cs : List Char) : Scanned Outline :=
  match cs with
  | '0' :: rest =>
    if (rest.takeWhile Char.isDigit).isEmpty then scanFraction negative ['0'] rest
    else (.cutNumber .malformed, none)
  | _ =>
    let digits := cs.takeWhile Char.isDigit
    if digits.isEmpty then missingDigit cs
    else scanFraction negative digits (cs.dropWhile Char.isDigit)

/-- The rest of a word, then its meaning. -/
def scanWord (meaning : Outline) : (word cs : List Char) → Scanned Outline
  | [], cs => (meaning, some cs)
  | _ :: _, [] => (.broken .ended, none)
  | w :: word, c :: cs => if w = c then scanWord meaning word cs else (.broken .malformed, none)

mutual

/-- A value behind any gaps; `fuel` is at least twice the length of the text. -/
def scanValue : (fuel : Nat) → List Char → Scanned Outline
  | 0, _ => (.broken .ended, none)
  | fuel + 1, cs =>
    match skipGaps cs with
    | [] => (.broken .ended, none)
    | 'n' :: rest => scanWord .null "ull".toList rest
    | 't' :: rest => scanWord (.bool true) "rue".toList rest
    | 'f' :: rest => scanWord (.bool false) "alse".toList rest
    | '-' :: rest => scanNumber true rest
    | '"' :: rest =>
      let (text, behind) := scanQuoted rest
      (.string text, behind)
    | '[' :: rest =>
      match skipGaps rest with
      | [] => (.array [] (.cut false .ended), none)
      | ']' :: rest => (.array [] .closed, some rest)
      | rest =>
        let (items, ending, behind) := scanItems fuel rest
        (.array items ending, behind)
    | '\x7b' :: rest =>
      match skipGaps rest with
      | [] => (.object [] (.cut false .ended), none)
      | '\x7d' :: rest => (.object [] .closed, some rest)
      | rest =>
        let (members, ending, behind) := scanMembers fuel rest
        (.object members ending, behind)
    | c :: rest => if c.isDigit then scanNumber false (c :: rest) else (.broken .malformed, none)
termination_by structural fuel => fuel

/-- The items of an array from one of them on. -/
def scanItems : (fuel : Nat) → List Char → List Outline × Ending × Option (List Char)
  | 0, _ => ([], .cut false .ended, none)
  | fuel + 1, cs =>
    match scanValue fuel cs with
    | (item, none) => ([item], .cut false .ended, none)
    | (item, some rest) =>
      match skipGaps rest with
      | [] => ([item], .cut false .ended, none)
      | ']' :: rest => ([item], .closed, some rest)
      | ',' :: rest =>
        match skipGaps rest with
        | [] => ([item], .cut true .ended, none)
        | ']' :: _ => ([item], .cut true .malformed, none)
        | rest =>
          let (items, ending, behind) := scanItems fuel rest
          (item :: items, ending, behind)
      | _ => ([item], .cut false .malformed, none)
termination_by structural fuel => fuel

/-- The members of an object from one of them on. -/
def scanMembers :
    (fuel : Nat) → List Char → List (Quoted × Outline) × Ending × Option (List Char)
  | 0, _ => ([], .cut false .ended, none)
  | fuel + 1, '"' :: cs =>
    match scanQuoted cs with
    | (name, none) => ([(name, .broken .ended)], .cut false .ended, none)
    | (name, some rest) =>
      match skipGaps rest with
      | [] => ([(name, .broken .ended)], .cut false .ended, none)
      | ':' :: rest =>
        match scanValue fuel rest with
        | (value, none) => ([(name, value)], .cut false .ended, none)
        | (value, some rest) =>
          match skipGaps rest with
          | [] => ([(name, value)], .cut false .ended, none)
          | '\x7d' :: rest => ([(name, value)], .closed, some rest)
          | ',' :: rest =>
            match skipGaps rest with
            | [] => ([(name, value)], .cut true .ended, none)
            | '"' :: rest =>
              let (members, ending, behind) := scanMembers fuel ('"' :: rest)
              ((name, value) :: members, ending, behind)
            | _ => ([(name, value)], .cut true .malformed, none)
          | _ => ([(name, value)], .cut false .malformed, none)
      | _ => ([(name, .broken .malformed)], .cut false .ended, none)
  | _ + 1, _ => ([], .cut false .malformed, none)
termination_by structural fuel => fuel

end

/-- The outline of the value a text starts with, and the text behind it. -/
def scan (cs : List Char) : Scanned Outline := scanValue (2 * cs.length + 2) cs

end Courier.Json
