import FocusJournal.Text.Utf8
import Mathlib.Tactic.Lemma

/-!
# Characters through bytes

What is written as UTF-8 is read back: `decode_encode` for characters as pieces, `text?_encode` for a text. A text is
written without a given byte of ASCII unless it has that very character, so that what ends a line is not written by
anything else.
-/

namespace FocusJournal.Text

/-- The code of a character is below the end of the code space. -/
lemma toNat_lt (c : Char) : c.toNat < 0x110000 := by
  have h := c.valid
  simp only [UInt32.isValidChar, Nat.isValidChar] at h
  change c.val.toNat < _
  omega

/-- A number that fits into a byte is the value of its byte. -/
lemma toNat_ofNat_byte {n : Nat} (h : n < 256) : (UInt8.ofNat n).toNat = n := UInt8.toNat_ofNat_of_lt' h

/-- Six bits are read back from the byte that continues with them. -/
lemma continuation?_ofNat {n : Nat} (h : n < 64) : continuation? (UInt8.ofNat (0x80 + n)) = some n := by
  rw [continuation?, toNat_ofNat_byte (by omega), if_pos (by omega)]
  simp

/-- The code of a character is read as the character if it takes so many bytes. -/
lemma charFrom?_toNat {c : Char} {least code : Nat} (h : least ≤ c.toNat) (hc : code = c.toNat) :
    charFrom? least code = some c := by
  have valid : c.toNat.isValidChar := c.valid
  simp [charFrom?, hc, h, valid]

/-- A character is read off the bytes that write it, whatever comes after them. -/
lemma leadingChar?_encodeChar (c : Char) (rest : List UInt8) : leadingChar? (encodeChar c ++ rest) = some c := by
  have bound := toNat_lt c
  unfold encodeChar
  dsimp only
  split
  · next h =>
    simp only [List.cons_append, leadingChar?, toNat_ofNat_byte (Nat.lt_trans h (by decide)), h, ite_true,
      Char.ofNat_toNat]
  split
  · next h₁ h₂ =>
    simp only [List.cons_append, leadingChar?, toNat_ofNat_byte (show 0xC0 + c.toNat / 64 < 256 by omega),
      continuation?_ofNat (Nat.mod_lt c.toNat (show 64 > 0 by decide))]
    rw [if_neg (by omega), if_neg (by omega), if_pos (by omega)]
    exact charFrom?_toNat (by omega) (by omega)
  split
  · next h₁ h₂ h₃ =>
    simp only [List.cons_append, leadingChar?, toNat_ofNat_byte (show 0xE0 + c.toNat / 4096 < 256 by omega),
      continuation?_ofNat (Nat.mod_lt (c.toNat / 64) (show 64 > 0 by decide)),
      continuation?_ofNat (Nat.mod_lt c.toNat (show 64 > 0 by decide))]
    rw [if_neg (by omega), if_neg (by omega), if_neg (by omega), if_pos (by omega)]
    exact charFrom?_toNat (by omega) (by omega)
  · next h₁ h₂ h₃ =>
    simp only [List.cons_append, leadingChar?, toNat_ofNat_byte (show 0xF0 + c.toNat / 262144 < 256 by omega),
      continuation?_ofNat (Nat.mod_lt (c.toNat / 4096) (show 64 > 0 by decide)),
      continuation?_ofNat (Nat.mod_lt (c.toNat / 64) (show 64 > 0 by decide)),
      continuation?_ofNat (Nat.mod_lt c.toNat (show 64 > 0 by decide))]
    rw [if_neg (by omega), if_neg (by omega), if_neg (by omega), if_neg (by omega), if_pos (by omega)]
    exact charFrom?_toNat (by omega) (by omega)

/-- A character is written by a first byte and those that belong to it. -/
lemma exists_encodeChar (c : Char) : ∃ b owed, encodeChar c = b :: owed ∧ owed.length = charSize c - 1 := by
  unfold encodeChar charSize
  dsimp only
  split
  · exact ⟨_, _, rfl, rfl⟩
  split
  · exact ⟨_, _, rfl, rfl⟩
  split <;> exact ⟨_, _, rfl, rfl⟩

/-- Bytes that belong to the last piece are passed over. -/
lemma decodeOnto_owed (read : List Piece) (owed rest : List UInt8) :
    decodeOnto read owed.length (owed ++ rest) = decodeOnto read 0 rest := by
  induction owed with
  | nil => rfl
  | cons b owed ih => simpa [decodeOnto] using ih

/-- The bytes of a character are read as that character. -/
lemma decodeOnto_encodeChar (read : List Piece) (c : Char) (rest : List UInt8) :
    decodeOnto read 0 (encodeChar c ++ rest) = decodeOnto (.char c :: read) 0 rest := by
  have leading := leadingChar?_encodeChar c rest
  obtain ⟨b, owed, he, size⟩ := exists_encodeChar c
  rw [he, List.cons_append] at leading ⊢
  rw [decodeOnto, leading]
  simp only [← size, decodeOnto_owed]

/-- The bytes of characters are read as those characters, whatever was read before and comes after. -/
lemma decodeOnto_encode (read : List Piece) (cs : List Char) (rest : List UInt8) :
    decodeOnto read 0 (encode cs ++ rest) = decodeOnto ((cs.map Piece.char).reverse ++ read) 0 rest := by
  induction cs generalizing read with
  | nil => rfl
  | cons c cs ih =>
    rw [encode, List.flatMap_cons, List.append_assoc, decodeOnto_encodeChar]
    change decodeOnto _ 0 (encode cs ++ rest) = _
    rw [ih]
    simp

/-- Characters are read back from the bytes that write them. -/
theorem decode_encode (cs : List Char) : decode (encode cs) = cs.map Piece.char := by
  have h := decodeOnto_encode [] cs []
  rw [List.append_nil, List.append_nil] at h
  rw [decode, h, decodeOnto, List.reverse_reverse]

/-- What was encoded is text, and it is what was encoded. -/
theorem text?_encode (cs : List Char) : text? (encode cs) = some cs := by
  rw [text?, decode_encode]
  induction cs with
  | nil => rfl
  | cons c cs ih => simp [Piece.char?, ih]

/-- The bytes of one text after another are the bytes of both. -/
lemma encode_append (cs ds : List Char) : encode (cs ++ ds) = encode cs ++ encode ds := List.flatMap_append

/-- A byte of ASCII writes the character of its number and no other. -/
lemma mem_of_mem_encode {b : UInt8} {cs : List Char} (hb : b.toNat < 0x80) (h : b ∈ encode cs) :
    Char.ofNat b.toNat ∈ cs := by
  obtain ⟨c, hc, hbc⟩ := List.mem_flatMap.1 h
  suffices hn : b.toNat = c.toNat by rwa [hn, Char.ofNat_toNat]
  have bound := toNat_lt c
  have greater {n : Nat} (hl : 0x80 ≤ n) (hu : n < 256) : b ≠ UInt8.ofNat n := by
    rintro rfl
    rw [toNat_ofNat_byte hu] at hb
    omega
  unfold encodeChar at hbc
  dsimp only at hbc
  split at hbc
  · rw [List.mem_singleton.1 hbc]
    exact toNat_ofNat_byte (by omega)
  -- All bytes of any other character are greater.
  simp only [apply_ite (b ∈ ·), List.mem_cons, List.not_mem_nil, or_false] at hbc
  split at hbc
  · rcases hbc with hb | hb <;> exact absurd hb (greater (by omega) (by omega))
  split at hbc
  · rcases hbc with hb | hb | hb <;> exact absurd hb (greater (by omega) (by omega))
  · rcases hbc with hb | hb | hb | hb <;> exact absurd hb (greater (by omega) (by omega))

end FocusJournal.Text
