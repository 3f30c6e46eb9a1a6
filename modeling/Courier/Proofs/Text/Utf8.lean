import Courier.Text.Utf8
/-!
Text in UTF-8 is decoded to the characters that it was encoded from.
-/
namespace Courier.Text

def charBytes (c : Char) : List Nat := (String.utf8EncodeChar c).map UInt8.toNat

def utf8 (cs : List Char) : List Nat := cs.flatMap charBytes

@[simp] theorem utf8_nil : utf8 [] = [] := rfl

@[simp] theorem utf8_cons (c : Char) (cs : List Char) : utf8 (c :: cs) = charBytes c ++ utf8 cs :=
  rfl

theorem utf8_append (cs more : List Char) : utf8 (cs ++ more) = utf8 cs ++ utf8 more :=
  List.flatMap_append

/-- The second byte of a character of three bytes. -/
def second3 (lead : Nat) : Nat × Nat :=
  if lead = 0xE0 then (0xA0, 0xBF) else if lead = 0xED then (0x80, 0x9F) else (0x80, 0xBF)

/-- The second byte of a character of four bytes. -/
def second4 (lead : Nat) : Nat × Nat :=
  if lead = 0xF0 then (0x90, 0xBF) else if lead = 0xF4 then (0x80, 0x8F) else (0x80, 0xBF)

theorem continuation_one {lead : Nat} (h : lead < 0x80) : continuation lead = some [] := if_pos h

theorem continuation_two {lead : Nat} (h : 0xC2 ≤ lead ∧ lead ≤ 0xDF) :
    continuation lead = some [(0x80, 0xBF)] := by
  rw [continuation, if_neg (by omega), if_pos h]

theorem continuation_three {lead : Nat} (h : 0xE0 ≤ lead ∧ lead ≤ 0xEF) :
    continuation lead = some [second3 lead, (0x80, 0xBF)] := by
  rw [continuation, if_neg (by omega), if_neg (by omega), second3]
  split
  · rfl
  · split
    · rfl
    · rw [if_pos (by omega)]

theorem continuation_four {lead : Nat} (h : 0xF0 ≤ lead ∧ lead ≤ 0xF4) :
    continuation lead = some [second4 lead, (0x80, 0xBF), (0x80, 0xBF)] := by
  rw [continuation, if_neg (by omega), if_neg (by omega), if_neg (by omega), if_neg (by omega),
    if_neg (by omega), second4]
  split
  · rfl
  · split
    · rfl
    · rw [if_pos (by omega)]

theorem finishChar_cons {index read value byte : Nat} {range : Nat × Nat}
    {ranges : List (Nat × Nat)} {bytes rest : List Nat} {c : Char} {h}
    (hbyte : range.1 ≤ byte ∧ byte ≤ range.2)
    (hlater : finishChar index (read + 1) (value * 64 + byte % 64) ranges bytes = .ok (c, ⟨rest, h⟩)) :
    finishChar index read value (range :: ranges) (byte :: bytes) =
      .ok (c, ⟨rest, Nat.le_succ_of_le h⟩) := by
  rw [finishChar, if_pos hbyte, hlater]
  rfl

/-- A character is decoded once its bytes are. -/
theorem decodeFrom_cons {index lead : Nat} {bytes rest : List Nat} {ranges : List (Nat × Nat)}
    {c : Char} {h} (hlead : continuation lead = some ranges)
    (hchar : finishChar index 1 (leadBits lead) ranges bytes = .ok (c, ⟨rest, h⟩)) :
    decodeFrom index (lead :: bytes) =
      (c :: ·) <$> decodeFrom (index + 1 + ranges.length) rest := by
  rw [decodeFrom]
  simp only [hlead, hchar, bind, Except.bind]
  cases decodeFrom (index + 1 + ranges.length) rest <;> rfl

theorem finishChar_nil {index read value : Nat} {bytes : List Nat} {c : Char}
    (hvalue : value = c.toNat) :
    finishChar index read value [] bytes = .ok (c, ⟨bytes, Nat.le_refl _⟩) := by
  rw [finishChar, hvalue, Char.ofNat_toNat]

/-- The code points of characters leave out those of the halves of pairs. -/
theorem toNat_bounds (c : Char) : c.toNat < 0xD800 ∨ 0xDFFF < c.toNat ∧ c.toNat < 0x110000 := c.valid

/-- The bytes of a character by the size of its code point. -/
theorem charBytes_cases (c : Char) :
    (c.toNat ≤ 0x7F ∧ charBytes c = [c.toNat]) ∨
    (0x80 ≤ c.toNat ∧ c.toNat ≤ 0x7FF ∧
      charBytes c = [c.toNat / 64 + 192, c.toNat % 64 + 128]) ∨
    (0x800 ≤ c.toNat ∧ c.toNat ≤ 0xFFFF ∧
      charBytes c = [c.toNat / 4096 + 224, c.toNat / 64 % 64 + 128, c.toNat % 64 + 128]) ∨
    (0x10000 ≤ c.toNat ∧ c.toNat < 0x110000 ∧
      charBytes c = [c.toNat / 262144 + 240, c.toNat / 4096 % 64 + 128, c.toNat / 64 % 64 + 128,
        c.toNat % 64 + 128]) := by
  have hbounds := toNat_bounds c
  have hval : c.val.toNat = c.toNat := rfl
  unfold charBytes String.utf8EncodeChar
  simp only [hval]
  have hbyte : ∀ n : Nat, n < 256 → (UInt8.ofNat n).toNat = n := fun n hn => by
    simpa using Nat.mod_eq_of_lt hn
  split
  · left
    refine ⟨by omega, ?_⟩
    simp only [List.map_cons, List.map_nil]
    rw [hbyte _ (by omega)]
  · split
    · right; left
      refine ⟨by omega, by omega, ?_⟩
      simp only [List.map_cons, List.map_nil]
      rw [hbyte _ (by omega), hbyte _ (by omega)]
      congr 1
      omega
    · split
      · right; right; left
        refine ⟨by omega, by omega, ?_⟩
        simp only [List.map_cons, List.map_nil]
        rw [hbyte _ (by omega), hbyte _ (by omega), hbyte _ (by omega)]
        congr 1
        omega
      · right; right; right
        refine ⟨by omega, by omega, ?_⟩
        simp only [List.map_cons, List.map_nil]
        rw [hbyte _ (by omega), hbyte _ (by omega), hbyte _ (by omega), hbyte _ (by omega)]
        congr 1
        omega

theorem charBytes_ne_nil (c : Char) : charBytes c ≠ [] := by
  rcases charBytes_cases c with ⟨_, hbytes⟩ | ⟨_, _, hbytes⟩ | ⟨_, _, hbytes⟩ | ⟨_, _, hbytes⟩ <;>
    simp [hbytes]

/-- A character is decoded from its bytes, whatever comes behind them. -/
theorem decodeFrom_charBytes (index : Nat) (c : Char) (rest : List Nat) :
    decodeFrom index (charBytes c ++ rest) =
      (c :: ·) <$> decodeFrom (index + (charBytes c).length) rest := by
  have hbounds := toNat_bounds c
  rcases charBytes_cases c with ⟨hv, hbytes⟩ | ⟨hlow, hhigh, hbytes⟩ | ⟨hlow, hhigh, hbytes⟩ |
    ⟨hlow, hhigh, hbytes⟩
  · rw [hbytes]
    have hbits : leadBits c.toNat = c.toNat := if_pos (by omega)
    exact decodeFrom_cons (continuation_one (by omega)) (finishChar_nil hbits)
  · rw [hbytes]
    have hbits : leadBits (c.toNat / 64 + 192) = c.toNat / 64 := by
      rw [leadBits, if_neg (by omega), if_pos (by omega)]
      omega
    refine decodeFrom_cons (continuation_two (by omega)) (finishChar_cons (by simp only; omega)
      (finishChar_nil ?_))
    omega
  · rw [hbytes]
    have hbits : leadBits (c.toNat / 4096 + 224) = c.toNat / 4096 := by
      rw [leadBits, if_neg (by omega), if_neg (by omega), if_pos (by omega)]
      omega
    have hsecond : (second3 (c.toNat / 4096 + 224)).1 ≤ c.toNat / 64 % 64 + 128 ∧
        c.toNat / 64 % 64 + 128 ≤ (second3 (c.toNat / 4096 + 224)).2 := by
      unfold second3
      split
      · simp only; omega
      · split <;> (simp only; omega)
    refine decodeFrom_cons (continuation_three (by omega)) (finishChar_cons hsecond
      (finishChar_cons (by simp only; omega) (finishChar_nil ?_)))
    omega
  · rw [hbytes]
    have hbits : leadBits (c.toNat / 262144 + 240) = c.toNat / 262144 := by
      rw [leadBits, if_neg (by omega), if_neg (by omega), if_neg (by omega)]
      omega
    have hsecond : (second4 (c.toNat / 262144 + 240)).1 ≤ c.toNat / 4096 % 64 + 128 ∧
        c.toNat / 4096 % 64 + 128 ≤ (second4 (c.toNat / 262144 + 240)).2 := by
      unfold second4
      split
      · simp only; omega
      · split <;> (simp only; omega)
    refine decodeFrom_cons (continuation_four (by omega)) (finishChar_cons hsecond
      (finishChar_cons (by simp only; omega) (finishChar_cons (by simp only; omega)
        (finishChar_nil ?_))))
    omega

theorem decodeFrom_utf8 (index : Nat) (cs : List Char) : decodeFrom index (utf8 cs) = .ok cs := by
  induction cs generalizing index with
  | nil => rw [utf8_nil, decodeFrom]
  | cons c cs ih =>
      rw [utf8_cons, decodeFrom_charBytes, ih]
      rfl

theorem decodeUtf8_utf8 (cs : List Char) : decodeUtf8 (utf8 cs) = .ok (String.ofList cs) := by
  rw [decodeUtf8, decodeFrom_utf8]
  rfl

/-- A text and the line feed that ends it. -/
theorem decodeUtf8_append_newline (cs : List Char) :
    decodeUtf8 (utf8 cs ++ [10]) = .ok (String.ofList (cs ++ ['\n'])) := by
  rw [← decodeUtf8_utf8, utf8_append]
  rfl

/-- A line feed is a byte of its own, and no other character has its byte. -/
theorem mem_charBytes {c : Char} : 10 ∈ charBytes c ↔ c = '\n' := by
  have hnewline : c = '\n' ↔ c.toNat = 10 := by
    constructor
    · rintro rfl
      rfl
    · intro h
      rw [← Char.ofNat_toNat c, h]
  rw [hnewline]
  rcases charBytes_cases c with ⟨hv, hbytes⟩ | ⟨hlow, hhigh, hbytes⟩ | ⟨hlow, hhigh, hbytes⟩ |
    ⟨hlow, hhigh, hbytes⟩
  all_goals
    rw [hbytes]
    simp only [List.mem_cons, List.not_mem_nil, or_false]
    omega

theorem toList_loop (bytes : ByteArray) (i : Nat) (read : List UInt8) :
    ByteArray.toList.loop bytes i read = read.reverse ++ bytes.data.toList.drop i := by
  fun_induction ByteArray.toList.loop bytes i read with
  | case1 i read h ih =>
      have hget : bytes.data.toList.drop i = bytes.get! i :: bytes.data.toList.drop (i + 1) := by
        have hlt : i < bytes.data.toList.length := by simpa using h
        rw [List.drop_eq_getElem_cons hlt]
        congr 1
        exact (getElem!_pos bytes.data i h).symm
      rw [ih, hget]
      simp
  | case2 i read h =>
      have hdrop : bytes.data.toList.drop i = [] := by
        apply List.drop_eq_nil_of_le
        simpa using h
      rw [hdrop, List.append_nil]

/-- These are the bytes of a text. -/
theorem toList_toUTF8 (text : String) : text.toUTF8.toList.map UInt8.toNat = utf8 text.toList := by
  rw [ByteArray.toList, toList_loop]
  have hencode : text.toUTF8 = (text.toList.flatMap String.utf8EncodeChar).toByteArray :=
    String.utf8Encode_toList.symm
  rw [hencode]
  simp only [List.data_toByteArray, List.reverse_nil, List.nil_append, List.drop_zero,
    List.map_flatMap]
  rfl

end Courier.Text
