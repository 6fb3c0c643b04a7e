import FocusJournal.Json.Printer
import Mathlib.Tactic.Lemma

/-!
# Spelling

The written form of a value from its first character to its last, as a reader meets it: `chars_eq` says that this is
what the writing functions, which put characters before those written so far, come to. A value is `plain` if it has no
float in it and its integers fit 64 bits, with a sign or without; such a value is spelled without control characters
(`not_control_of_mem_spell`), so that what ends a line never stands inside it.
-/

namespace FocusJournal.Json

/-- The characters of a string, in quotes. -/
def spellString (s : String) : List Char := '"' :: (s.toList.flatMap escape ++ ['"'])

mutual

/-- The characters of a value. -/
def spell : Json → List Char
  | .null => ['n', 'u', 'l', 'l']
  | .bool true => ['t', 'r', 'u', 'e']
  | .bool false => ['f', 'a', 'l', 's', 'e']
  | .integer n => Text.integerChars n
  | .float x => Decimal.text x
  | .string s => spellString s
  | .array items => '[' :: (spellItems items true ++ [']'])
  | .object members => '\x7b' :: (spellMembers members true ++ ['\x7d'])

/-- The characters of items, each but the first after a comma. -/
def spellItems : List Json → (first : Bool) → List Char
  | [], _ => []
  | item :: rest, first => (if first then [] else [',']) ++ spell item ++ spellItems rest false

/-- The characters of members, each but the first after a comma. -/
def spellMembers : List (String × Json) → (first : Bool) → List Char
  | [], _ => []
  | (key, value) :: rest, first =>
    (if first then [] else [',']) ++ spellString key ++ ':' :: spell value ++ spellMembers rest false

end

mutual

/-- No float is in the value, and its integers fit 64 bits. -/
def plain : Json → Bool
  | .null => true
  | .bool _ => true
  | .integer n => -9223372036854775808 ≤ n && n ≤ 18446744073709551615
  | .float _ => false
  | .string _ => true
  | .array items => plainItems items
  | .object members => plainMembers members

/-- Each item is plain. -/
def plainItems : List Json → Bool
  | [] => true
  | item :: rest => plain item && plainItems rest

/-- The value of each member is plain. -/
def plainMembers : List (String × Json) → Bool
  | [] => true
  | (_, value) :: rest => plain value && plainMembers rest

end

mutual

/-- The number of brackets that are open at once in a value. -/
def depth : Json → Nat
  | .array items => depthItems items + 1
  | .object members => depthMembers members + 1
  | _ => 0

/-- The depth of the deepest item. -/
def depthItems : List Json → Nat
  | [] => 0
  | item :: rest => max (depth item) (depthItems rest)

/-- The depth of the deepest value of a member. -/
def depthMembers : List (String × Json) → Nat
  | [] => 0
  | (_, value) :: rest => max (depth value) (depthMembers rest)

end

/-- Members are plain if their values are. -/
lemma plainMembers_of_forall {members : List (String × Json)} (h : ∀ m ∈ members, plain m.2 = true) :
    plainMembers members = true := by
  induction members with
  | nil => rfl
  | cons m members ih =>
    rw [plainMembers, h m (.head _), ih fun m hm => h m (.tail _ hm)]
    rfl

/-- Items are plain if each of them is. -/
lemma plainItems_of_forall {items : List Json} (h : ∀ j ∈ items, plain j = true) : plainItems items = true := by
  induction items with
  | nil => rfl
  | cons j items ih =>
    rw [plainItems, h j (.head _), ih fun j hj => h j (.tail _ hj)]
    rfl

/-- Items are no deeper than the deepest of them. -/
lemma depthItems_lt {items : List Json} {n : Nat} (hn : 0 < n) (h : ∀ j ∈ items, depth j < n) : depthItems items < n := by
  induction items with
  | nil => exact hn
  | cons j items ih => exact Nat.max_lt.2 ⟨h j (.head _), ih fun j hj => h j (.tail _ hj)⟩

/-- Members are no deeper than the deepest of their values. -/
lemma depthMembers_lt {members : List (String × Json)} {n : Nat} (hn : 0 < n) (h : ∀ m ∈ members, depth m.2 < n) :
    depthMembers members < n := by
  induction members with
  | nil => exact hn
  | cons m members ih => exact Nat.max_lt.2 ⟨h m (.head _), ih fun m hm => h m (.tail _ hm)⟩

/-- Characters are written in front of those that are there, the last one first. -/
lemma write_eq (cs written : List Char) : write cs written = cs.reverse ++ written := by
  simp [write, List.reverseAux_eq]

/-- Writing a string puts down the characters that it is spelled with. -/
lemma writeString_eq (s : String) (written : List Char) : writeString s written = (spellString s).reverse ++ written := by
  have body (cs out : List Char) :
      cs.foldl (fun out c => write (escape c) out) out = (cs.flatMap escape).reverse ++ out := by
    induction cs generalizing out with
    | nil => rfl
    | cons c cs ih => rw [List.foldl_cons, ih, write_eq, List.flatMap_cons, List.reverse_append, List.append_assoc]
  simp [writeString, body, spellString]

mutual

/-- Writing a value puts down the characters that it is spelled with. -/
lemma writeValue_eq (j : Json) (written : List Char) : writeValue j written = (spell j).reverse ++ written := by
  match j with
  | .null => rfl
  | .bool true => rfl
  | .bool false => rfl
  | .integer n => rw [writeValue, write_eq, spell]
  | .float x => rw [writeValue, write_eq, spell]
  | .string s => rw [writeValue, writeString_eq, spell]
  | .array items =>
    rw [writeValue, writeItems_eq, spell]
    simp
  | .object members =>
    rw [writeValue, writeMembers_eq, spell]
    simp

/-- Writing items puts down the characters that they are spelled with. -/
lemma writeItems_eq (items : List Json) (first : Bool) (written : List Char) :
    writeItems items first written = (spellItems items first).reverse ++ written := by
  match items with
  | [] => rfl
  | item :: rest =>
    rw [writeItems, writeItems_eq, writeValue_eq, spellItems]
    cases first <;> simp

/-- Writing members puts down the characters that they are spelled with. -/
lemma writeMembers_eq (members : List (String × Json)) (first : Bool) (written : List Char) :
    writeMembers members first written = (spellMembers members first).reverse ++ written := by
  match members with
  | [] => rfl
  | (key, value) :: rest =>
    rw [writeMembers, writeMembers_eq, writeValue_eq, writeString_eq, spellMembers]
    cases first <;> simp

end

/-- A value is written as it is spelled. -/
theorem chars_eq (j : Json) : j.chars = spell j := by
  rw [chars, writeValue_eq, List.append_nil, List.reverse_reverse]

/-- A check of characters one by one is one of each of them. -/
lemma not_control_of_all {cs : List Char} (all : cs.all (fun d => decide (32 ≤ d.toNat)) = true) {d : Char}
    (h : d ∈ cs) : 32 ≤ d.toNat :=
  of_decide_eq_true (List.all_eq_true.1 all d h)

/-- No hexadecimal digit is a control character. -/
lemma not_control_hexDigit : ∀ n < 16, 32 ≤ (hexDigit n).toNat := by decide

/-- A control character is not left as it is. -/
lemma not_control_of_mem_escape {c d : Char} (h : d ∈ escape c) : 32 ≤ d.toNat := by
  unfold escape at h
  repeat
    split at h
    · exact not_control_of_all (by decide) h
  split at h
  · next hc =>
    simp only [List.mem_cons, List.not_mem_nil, or_false] at h
    rcases h with rfl | rfl | rfl | rfl | rfl | rfl
    · decide
    · decide
    · decide
    · decide
    · exact not_control_hexDigit _ (by omega)
    · exact not_control_hexDigit _ (by omega)
  · next hc =>
    rw [List.mem_singleton.1 h]
    omega

/-- Strings are spelled without control characters. -/
lemma not_control_of_mem_spellString {s : String} {d : Char} (h : d ∈ spellString s) : 32 ≤ d.toNat := by
  simp only [spellString, List.mem_cons, List.mem_append, List.mem_flatMap, List.not_mem_nil, or_false] at h
  rcases h with rfl | ⟨c, _, h⟩ | rfl
  · decide
  · exact not_control_of_mem_escape h
  · decide

/-- Numerals are spelled without control characters. -/
lemma not_control_of_mem_digits {n : Nat} {d : Char} (h : d ∈ Text.naturalDigits n) : 32 ≤ d.toNat := by
  have digit := Nat.isDigit_of_mem_toDigits (by decide) (by decide) h
  simp only [Char.isDigit, ge_iff_le, Bool.and_eq_true, decide_eq_true_eq] at digit
  have lower : (48 : UInt32).toNat ≤ d.val.toNat := digit.1
  exact Nat.le_trans (by decide) lower

/-- Integers are spelled without control characters. -/
lemma not_control_of_mem_integerChars {n : Int} {d : Char} (h : d ∈ Text.integerChars n) : 32 ≤ d.toNat := by
  cases n with
  | ofNat n => exact not_control_of_mem_digits h
  | negSucc n =>
    rcases List.mem_cons.1 h with rfl | h
    · decide
    · exact not_control_of_mem_digits h

mutual

/-- A plain value is spelled without control characters. -/
lemma not_control_of_mem_spell {j : Json} (hp : plain j = true) {d : Char} (h : d ∈ spell j) : 32 ≤ d.toNat := by
  match j with
  | .null | .bool true | .bool false =>
    rw [spell] at h
    exact not_control_of_all (by decide) h
  | .integer n => exact not_control_of_mem_integerChars h
  | .float _ => rw [plain] at hp; cases hp
  | .string s => exact not_control_of_mem_spellString h
  | .array items =>
    simp only [spell, List.mem_cons, List.mem_append, List.not_mem_nil, or_false] at h
    rcases h with rfl | h | rfl
    · decide
    · exact not_control_of_mem_spellItems hp h
    · decide
  | .object members =>
    simp only [spell, List.mem_cons, List.mem_append, List.not_mem_nil, or_false] at h
    rcases h with rfl | h | rfl
    · decide
    · exact not_control_of_mem_spellMembers hp h
    · decide

/-- Plain items are spelled without control characters. -/
lemma not_control_of_mem_spellItems {items : List Json} {first : Bool} (hp : plainItems items = true) {d : Char}
    (h : d ∈ spellItems items first) : 32 ≤ d.toNat := by
  match items with
  | [] => cases h
  | item :: rest =>
    rw [plainItems, Bool.and_eq_true] at hp
    simp only [spellItems, List.mem_append] at h
    rcases h with (h | h) | h
    · cases first with
      | true => cases h
      | false => exact not_control_of_all (by decide) h
    · exact not_control_of_mem_spell hp.1 h
    · exact not_control_of_mem_spellItems hp.2 h

/-- Plain members are spelled without control characters. -/
lemma not_control_of_mem_spellMembers {members : List (String × Json)} {first : Bool}
    (hp : plainMembers members = true) {d : Char} (h : d ∈ spellMembers members first) : 32 ≤ d.toNat := by
  match members with
  | [] => cases h
  | (key, value) :: rest =>
    rw [plainMembers, Bool.and_eq_true] at hp
    simp only [spellMembers, List.mem_append, List.mem_cons] at h
    rcases h with ((h | h) | rfl | h) | h
    · cases first with
      | true => cases h
      | false => exact not_control_of_all (by decide) h
    · exact not_control_of_mem_spellString h
    · decide
    · exact not_control_of_mem_spell hp.1 h
    · exact not_control_of_mem_spellMembers hp.2 h

end

end FocusJournal.Json
