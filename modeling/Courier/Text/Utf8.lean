/-!
Text in UTF-8.

Decoding stops at the first byte that no character can start or go on with, and says how many bytes
were read in vain, or that the bytes end within a character.
-/
namespace Courier.Text

/-- Where the bytes stop being UTF-8. -/
inductive Utf8Error where
  /-- `count` bytes from `index` on start no character. -/
  | invalid (index count : Nat)
  /-- The character that starts at `index` is cut off by the end. -/
  | incomplete (index : Nat)
  deriving DecidableEq, Repr, Inhabited

def Utf8Error.message : Utf8Error → String
  | .invalid index count => s!"invalid utf-8 sequence of {count} bytes from index {index}"
  | .incomplete index => s!"incomplete utf-8 byte sequence from index {index}"

/-- The bytes a character goes on with after its first byte, as closed ranges. -/
def continuation (lead : Nat) : Option (List (Nat × Nat)) :=
  let any := (0x80, 0xBF)
  if lead < 0x80 then some []
  else if 0xC2 ≤ lead ∧ lead ≤ 0xDF then some [any]
  else if lead = 0xE0 then some [(0xA0, 0xBF), any]
  else if lead = 0xED then some [(0x80, 0x9F), any]
  else if 0xE1 ≤ lead ∧ lead ≤ 0xEF then some [any, any]
  else if lead = 0xF0 then some [(0x90, 0xBF), any, any]
  else if lead = 0xF4 then some [(0x80, 0x8F), any, any]
  else if 0xF1 ≤ lead ∧ lead ≤ 0xF3 then some [any, any, any]
  else none

/-- The bits that a first byte gives to its character. -/
def leadBits (lead : Nat) : Nat :=
  if lead < 0x80 then lead
  else if lead < 0xE0 then lead % 0x20
  else if lead < 0xF0 then lead % 0x10
  else lead % 0x08

/-- Go on with a character of which `read` bytes gave the value so far. -/
def finishChar (index : Nat) :
    (read value : Nat) → List (Nat × Nat) → (bytes : List Nat) →
      Except Utf8Error (Char × { rest : List Nat // rest.length ≤ bytes.length })
  | _, value, [], bytes => .ok (Char.ofNat value, ⟨bytes, Nat.le_refl _⟩)
  | _, _, _ :: _, [] => .error (.incomplete index)
  | read, value, range :: ranges, byte :: bytes =>
    if range.1 ≤ byte ∧ byte ≤ range.2 then do
      let (c, ⟨rest, h⟩) ← finishChar index (read + 1) (value * 64 + byte % 64) ranges bytes
      pure (c, ⟨rest, Nat.le_succ_of_le h⟩)
    else .error (.invalid index read)

/-- The characters of the bytes from `index` on. -/
def decodeFrom (index : Nat) : (bytes : List Nat) → Except Utf8Error (List Char)
  | [] => .ok []
  | lead :: bytes =>
    match continuation lead with
    | none => .error (.invalid index 1)
    | some ranges => do
      let (c, ⟨rest, _⟩) ← finishChar index 1 (leadBits lead) ranges bytes
      let cs ← decodeFrom (index + 1 + ranges.length) rest
      pure (c :: cs)
termination_by bytes => bytes.length
decreasing_by simp only [List.length_cons]; omega

def decodeUtf8 (bytes : List Nat) : Except Utf8Error String :=
  (decodeFrom 0 bytes).map String.ofList

end Courier.Text
