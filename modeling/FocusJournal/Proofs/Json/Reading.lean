import FocusJournal.Json.Reader
import FocusJournal.Proofs.Json.Spelling
import FocusJournal.Proofs.Text.Utf8

/-!
# Reading what is spelled

A reader `Reads` a text if it takes it for a value whatever comes after it, given a budget of the length of the text and
as many levels as brackets are open at once. `reads_spell` says this of every plain value: it is read from its
characters, and its objects come out with their keys in order (`tidy`); `ofBytes_chars` says it of the bytes. A value
whose objects are in order, as all that were read are, comes out as it was (`tidy_of_ordered`).

The induction is the one by which values are written: what comes after an item or a member is a comma or a bracket, so
that no number runs on into it.
-/

namespace FocusJournal.Json

open Text (Piece isDigit digitValue isDigit_iff)

/-! ## Strings -/

/-- The four digits that are written for a control character are read as its code. -/
lemma readHex_low {n : Nat} (h : n < 32) (rest : List Piece) :
    readHex (.char '0' :: .char '0' :: .char (hexDigit (n / 16)) :: .char (hexDigit (n % 16)) :: rest) = .ok (n, rest) := by
  have digits : ∀ n < 32, (Text.hexDigit? (hexDigit (n / 16)), Text.hexDigit? (hexDigit (n % 16))) =
      (some (n / 16), some (n % 16)) := by decide
  obtain ⟨high, low⟩ := Prod.ext_iff.1 (digits n h)
  have zero : Text.hexDigit? '0' = some 0 := by decide
  simp only at high low
  simp only [readHex, zero, high, low]
  congr 2
  omega

/-- A character is read as it is written in a string. -/
lemma readChars_escape (budget : Nat) (read : List Char) (c : Char) (rest : List Piece) :
    readChars (budget + 1) read none ((escape c).map Piece.char ++ rest) = readChars budget (c :: read) none rest := by
  unfold escape
  repeat
    split
    · next hc => rw [hc]; rfl
  split
  · next hc =>
    have units : readCodeUnits (.char '0' :: .char '0' :: .char (hexDigit (c.toNat / 16)) ::
        .char (hexDigit (c.toNat % 16)) :: rest) = .ok (c, rest) := by
      simp only [readCodeUnits, readHex_low hc, bind, Except.bind]
      rw [if_neg (by omega), if_pos (by omega), Char.ofNat_toNat]
    have escaped : readEscape (.char 'u' :: .char '0' :: .char '0' :: .char (hexDigit (c.toNat / 16)) ::
        .char (hexDigit (c.toNat % 16)) :: rest) = .ok (c, rest) := units
    simp only [List.map_cons, List.map_nil, List.cons_append, List.nil_append]
    rw [readChars]
    simp only [escaped]
    rfl
  · next h₁ h₂ _ _ _ _ _ hc => simp [readChars, h₁, h₂, hc]

/-- The characters of a string are read back up to the quote that ends it. -/
lemma readChars_spell (cs : List Char) {budget : Nat} (hb : cs.length < budget) (read : List Char) (rest : List Piece) :
    readChars budget read none ((cs.flatMap escape ++ ['"']).map Piece.char ++ rest) =
      .ok (String.ofList (read.reverse ++ cs), rest) := by
  induction cs generalizing budget read with
  | nil =>
    obtain ⟨budget, rfl⟩ := Nat.exists_eq_add_of_lt hb
    simp [readChars]
  | cons c cs ih =>
    obtain ⟨budget, rfl⟩ : ∃ n, budget = n + 1 := ⟨budget - 1, by omega⟩
    rw [List.length_cons] at hb
    rw [List.flatMap_cons, List.append_assoc, List.map_append, List.append_assoc, readChars_escape, ih (by omega)]
    simp

/-- No character vanishes when it is escaped. -/
lemma length_le_flatMap_escape (cs : List Char) : cs.length ≤ (cs.flatMap escape).length := by
  induction cs with
  | nil => exact Nat.le_refl _
  | cons c cs ih =>
    have one : 1 ≤ (escape c).length := by
      unfold escape
      repeat' split
      all_goals exact Nat.succ_le_succ (Nat.zero_le _)
    rw [List.flatMap_cons, List.length_append, List.length_cons]
    omega

/-- A string is read back from its characters after the opening quote. -/
lemma readText_spell (s : String) (budget : Nat) (hb : (spellString s).length ≤ budget + 1) (rest : List Piece) :
    readText budget ((s.toList.flatMap escape ++ ['"']).map Piece.char ++ rest) = .ok (s, rest) := by
  have h := length_le_flatMap_escape s.toList
  simp only [spellString, List.length_cons, List.length_append, List.length_nil] at hb
  rw [readText, readChars_spell _ (by omega)]
  simp

/-! ## Numbers -/

/-- No digit or other part of a number comes next. -/
def endsNumber : List Piece → Bool
  | .char c :: _ => !(isDigit c || c == '.' || c == 'e' || c == 'E')
  | _ => true

/-- Where a number ends, no digit comes next. -/
lemma digit?_of_endsNumber {rest : List Piece} (h : endsNumber rest = true) : digit? rest = none := by
  match rest with
  | [] => rfl
  | .stray _ :: _ => rfl
  | .char c :: rest =>
    have hd : isDigit c = false := by simp_all [endsNumber]
    simp [digit?, hd]

/-- A number does not become smaller by further digits. -/
lemma le_ofDigitChars (ds : List Char) (number : Nat) : number ≤ Nat.ofDigitChars 10 ds number := by
  induction ds generalizing number with
  | nil => simp
  | cons c ds ih =>
    rw [Nat.ofDigitChars_cons]
    exact Nat.le_trans (by omega) (ih _)

/-- Digits are taken for the number that they write. -/
lemma takeDigits_spell {greatest : Nat} (ds : List Char) (hd : ∀ c ∈ ds, c.isDigit = true) {number taken : Nat}
    (hg : Nat.ofDigitChars 10 ds number ≤ greatest) {rest : List Piece} (hr : endsNumber rest = true) :
    takeDigits greatest number taken (ds.map Piece.char ++ rest) =
      (Nat.ofDigitChars 10 ds number, taken + ds.length, 0, rest) := by
  induction ds generalizing number taken with
  | nil =>
    match rest with
    | [] => simp [takeDigits]
    | .stray _ :: _ => simp [takeDigits]
    | .char c :: rest =>
      have hc : isDigit c = false := by simp_all [endsNumber]
      simp [takeDigits, hc]
  | cons c ds ih =>
    have hc : isDigit c = true := by rw [isDigit_iff]; exact hd c (.head _)
    have value : 10 * number + (c.toNat - '0'.toNat) = 10 * number + digitValue c := rfl
    rw [Nat.ofDigitChars_cons, value] at hg ⊢
    have fits : ¬ greatest < 10 * number + digitValue c := Nat.not_lt.2 (Nat.le_trans (le_ofDigitChars ds _) hg)
    rw [List.map_cons, List.cons_append, takeDigits, if_pos hc, if_neg fits,
      ih (fun c hc => hd c (.tail _ hc)) hg, List.length_cons, Nat.add_assoc, Nat.add_comm 1]

/-- A number is written by digits, and only zero by one that begins with a zero. -/
lemma exists_naturalDigits (n : Nat) :
    ∃ c ds, Text.naturalDigits n = c :: ds ∧ (∀ d ∈ c :: ds, d.isDigit = true) ∧
      (digitValue c = 0 → n = 0 ∧ ds = []) ∧ Nat.ofDigitChars 10 ds (digitValue c) = n := by
  have first : ∃ c ds, Text.naturalDigits n = c :: ds ∧ (digitValue c = 0 → n = 0 ∧ ds = []) := by
    induction n using Nat.strongRecOn with
    | ind n ih =>
      rw [Text.naturalDigits, Nat.toDigits_eq_if (by decide)]
      split
      · next hn =>
        have value : ∀ n < 10, digitValue n.digitChar = n := by decide
        exact ⟨_, [], rfl, fun h => ⟨by rwa [value n hn] at h, rfl⟩⟩
      · next hn =>
        obtain ⟨c, ds, eq, zero⟩ := ih (n / 10) (by omega)
        rw [Text.naturalDigits] at eq
        rw [eq]
        exact ⟨c, _, rfl, fun h => absurd (zero h).1 (by omega)⟩
  obtain ⟨c, ds, eq, zero⟩ := first
  have digits : ∀ d ∈ c :: ds, d.isDigit = true := by
    rw [← eq]
    exact fun d hd => Nat.isDigit_of_mem_toDigits (by decide) (by decide) hd
  refine ⟨c, ds, eq, digits, zero, ?_⟩
  have value := Nat.ofDigitChars_ten_toDigits (n := n)
  rw [← Text.naturalDigits, eq, Nat.ofDigitChars_cons] at value
  simpa [digitValue] using value

/-- A numeral that ends behind its digits writes an integer. -/
lemma readTail_of_endsNumber (n : Numeral) {rest : List Piece} (hr : endsNumber rest = true) :
    readTail n 0 rest = n.whole rest := by
  unfold readTail
  split
  · cases hr
  · cases hr
  · cases hr
  · rfl

/-- A number is read back from its digits. -/
lemma readNumber_spell (positive : Bool) {n : Nat} (hn : n ≤ greatestSignificand) {rest : List Piece}
    (hr : endsNumber rest = true) :
    readNumber positive ((Text.naturalDigits n).map Piece.char ++ rest) = (⟨positive, n, 0⟩ : Numeral).whole rest := by
  obtain ⟨c, ds, eq, digits, zero, value⟩ := exists_naturalDigits n
  have hc : isDigit c = true := by rw [isDigit_iff]; exact digits c (.head _)
  have first : digit? (.char c :: (ds.map Piece.char ++ rest)) = some (digitValue c, ds.map Piece.char ++ rest) := by
    simp [digit?, hc]
  rw [eq, List.map_cons, List.cons_append, readNumber]
  cases hv : digitValue c with
  | zero =>
    obtain ⟨rfl, rfl⟩ := zero hv
    rw [hv, List.map_nil, List.nil_append] at first
    simp only [first, List.map_nil, List.nil_append, digit?_of_endsNumber hr]
    exact readTail_of_endsNumber _ hr
  | succ k =>
    rw [hv] at first value
    simp only [first, takeDigits_spell ds (fun d hd => digits d (.tail _ hd)) (value.symm ▸ hn) hr, value]
    exact readTail_of_endsNumber _ hr

/-- An integer of 64 bits is read back from its characters. -/
lemma whole_natAbs {n : Int} (hl : -9223372036854775808 ≤ n) (rest : List Piece) :
    (⟨decide (0 ≤ n), n.natAbs, 0⟩ : Numeral).whole rest = .ok (.integer n, rest) := by
  by_cases hn : 0 ≤ n
  · have abs : (n.natAbs : Int) = n := Int.natAbs_of_nonneg hn
    simp [Numeral.whole, hn, abs]
  · have abs : (n.natAbs : Int) = -n := Int.ofNat_natAbs_of_nonpos (by omega)
    have fits : ¬ (n.natAbs = 0 ∨ 9223372036854775808 < n.natAbs) := by omega
    rw [Numeral.whole, if_neg (by simpa using hn), if_neg fits, abs, Int.neg_neg]

/-! ## Values -/

mutual

/-- The value with the members of each object in the order of their keys, of each key the last one. -/
def tidy : Json → Json
  | .array items => .array (tidyItems items)
  | .object members => .ofMembers (tidyMembers members)
  | j => j

/-- Items that are tidy. -/
def tidyItems : List Json → List Json
  | [] => []
  | item :: rest => tidy item :: tidyItems rest

/-- Members whose values are tidy, in the order in which they were written. -/
def tidyMembers : List (String × Json) → List (String × Json)
  | [] => []
  | (key, value) :: rest => (key, tidy value) :: tidyMembers rest

end

/-- A reader takes a text with so many brackets open at once for a value, whatever comes next. -/
def Reads {α : Type} (reader : Reader α) (text : List Char) (depth : Nat) (a : α) : Prop :=
  ∀ (budget levels : Nat) (rest : List Piece), text.length ≤ budget → depth ≤ levels → endsNumber rest = true →
    reader budget levels (text.map Piece.char ++ rest) = .ok (a, rest)

/-- What a value begins with: no blank, and nothing that ends a list or separates its items. -/
def opens (c : Char) : Bool :=
  c == 'n' || c == 't' || c == 'f' || c == '-' || isDigit c || c == '"' || c == '[' || c == '\x7b'

/-- What a value begins with is not skipped as a blank. -/
lemma skipBlanks_of_opens {c : Char} (h : opens c = true) (rest : List Piece) :
    skipBlanks (.char c :: rest) = .char c :: rest := by
  rw [skipBlanks, if_neg]
  rintro (rfl | rfl | rfl | rfl) <;> exact absurd h (by decide)

/-- An integer begins with a minus sign or a digit. -/
lemma exists_integerChars (n : Int) : ∃ c cs, Text.integerChars n = c :: cs ∧ (c = '-' ∨ isDigit c = true) := by
  cases n with
  | ofNat n =>
    obtain ⟨c, ds, eq, digits, _⟩ := exists_naturalDigits n
    exact ⟨c, ds, eq, .inr (by rw [isDigit_iff]; exact digits c (.head _))⟩
  | negSucc n => exact ⟨_, _, rfl, .inl rfl⟩

/-- The first character of a plain value is one that opens a value. -/
lemma exists_spell {j : Json} (hp : plain j = true) : ∃ c cs, spell j = c :: cs ∧ opens c = true := by
  match j with
  | .null | .bool true | .bool false | .string _ | .array _ | .object _ => exact ⟨_, _, rfl, by decide⟩
  | .integer n =>
    obtain ⟨c, cs, eq, hc⟩ := exists_integerChars n
    refine ⟨c, cs, eq, ?_⟩
    rcases hc with rfl | hc
    · decide
    · simp [opens, hc]
  | .float _ => rw [plain] at hp; cases hp

/-- What follows an item: the next one after a comma, or the closing bracket. -/
lemma endsNumber_spellItems (items : List Json) (rest : List Piece) :
    endsNumber ((spellItems items false).map Piece.char ++ .char ']' :: rest) = true := by
  cases items <;> rfl

/-- What follows a member: the next one after a comma, or the closing brace. -/
lemma endsNumber_spellMembers (members : List (String × Json)) (rest : List Piece) :
    endsNumber ((spellMembers members false).map Piece.char ++ .char '\x7d' :: rest) = true := by
  cases members <;> rfl

/-- A comma is not skipped as a blank. -/
lemma skipBlanks_comma (rest : List Piece) : skipBlanks (.char ',' :: rest) = .char ',' :: rest := rfl

/-- An item follows where one is spelled. -/
lemma nextItem_spell {item : Json} (hp : plain item = true) (first : Bool) (rest : List Piece) :
    nextItem first (((if first then [] else [',']) ++ spell item).map Piece.char ++ rest) =
      .ok (.more ((spell item).map Piece.char ++ rest)) := by
  obtain ⟨c, cs, eq, hc⟩ := exists_spell hp
  have hb : c ≠ ']' := by rintro rfl; exact absurd hc (by decide)
  cases first <;> simp [nextItem, eq, skipBlanks_comma, skipBlanks_of_opens hc, hb]

/-- A key follows where one is spelled. -/
lemma nextKey_spell (key : String) (first : Bool) (rest : List Piece) :
    nextKey first (((if first then [] else [',']) ++ spellString key).map Piece.char ++ rest) =
      .ok (.more ((key.toList.flatMap escape ++ ['"']).map Piece.char ++ rest)) := by
  cases first <;> simp [nextKey, spellString, skipBlanks]

/-- An integer that fits is read from its characters. -/
lemma readJson_integer {n : Int} (hp : plain (.integer n) = true) (budget levels : Nat) {rest : List Piece}
    (hr : endsNumber rest = true) :
    readJson (budget + 1) levels ((Text.integerChars n).map Piece.char ++ rest) = .ok (.integer n, rest) := by
  simp only [plain, Bool.and_eq_true, decide_eq_true_eq] at hp
  have fits : n.natAbs ≤ greatestSignificand := by
    rw [greatestSignificand]
    omega
  rw [← whole_natAbs hp.1]
  cases n with
  | ofNat n =>
    obtain ⟨c, ds, eq, digits, _⟩ := exists_naturalDigits n
    have hc : isDigit c = true := by rw [isDigit_iff]; exact digits c (.head _)
    have blanks := skipBlanks_of_opens (c := c) (by simp [opens, hc]) (ds.map Piece.char ++ rest)
    have number := readNumber_spell true fits hr
    have letter : ∀ a, isDigit a = false → c ≠ a := by rintro a ha rfl; simp [hc] at ha
    simp only [Int.ofNat_eq_natCast, Int.natAbs_natCast] at number ⊢
    simp only [Text.integerChars, eq, List.map_cons, List.cons_append] at number ⊢
    simp [readJson, blanks, letter 'n' rfl, letter 't' rfl, letter 'f' rfl, letter '-' rfl, hc, number]
  | negSucc n =>
    have number := readNumber_spell false fits hr
    simpa [Text.integerChars, readJson, skipBlanks, Int.negSucc_not_nonneg] using number

/-- No plain value is spelled with no characters. -/
lemma length_spell_pos {j : Json} (hp : plain j = true) : 0 < (spell j).length := by
  obtain ⟨c, cs, eq, _⟩ := exists_spell hp
  rw [eq]
  exact Nat.succ_pos _

mutual

/-- A plain value is read from its characters, and its objects come out in order. -/
theorem reads_spell {j : Json} (hp : plain j = true) : Reads readJson (spell j) (depth j) (tidy j) := by
  intro budget levels rest hb hl hr
  obtain ⟨budget, rfl⟩ : ∃ n, budget = n + 1 := ⟨budget - 1, by have := length_spell_pos hp; omega⟩
  match j with
  | .null | .bool true | .bool false =>
    simp [spell, tidy, readJson, skipBlanks, readWord, Except.map]
  | .integer n => exact readJson_integer hp budget levels hr
  | .float _ => rw [plain] at hp; cases hp
  | .string s =>
    have text := readText_spell s budget hb rest
    have shape : (spell (.string s)).map Piece.char ++ rest =
        .char '"' :: ((s.toList.flatMap escape ++ ['"']).map Piece.char ++ rest) := by
      rw [spell, spellString, List.map_cons, List.cons_append]
    rw [shape, readJson, skipBlanks_of_opens (by decide)]
    simp only [text]
    simp [tidy, Except.map, Text.isDigit]
  | .array items =>
    obtain ⟨levels, rfl⟩ : ∃ n, levels = n + 1 := ⟨levels - 1, by rw [depth] at hl; omega⟩
    rw [plain] at hp
    rw [depth] at hl
    simp only [spell, List.length_cons, List.length_append, List.length_nil] at hb
    have body := readItems_spell hp true [] budget levels (by omega) (by omega) rest
    have shape : (spell (.array items)).map Piece.char ++ rest =
        .char '[' :: ((spellItems items true).map Piece.char ++ .char ']' :: rest) := by
      simp [spell]
    rw [shape, readJson, skipBlanks_of_opens (by decide)]
    simpa [Text.isDigit, tidy] using body
  | .object members =>
    obtain ⟨levels, rfl⟩ : ∃ n, levels = n + 1 := ⟨levels - 1, by rw [depth] at hl; omega⟩
    rw [plain] at hp
    rw [depth] at hl
    simp only [spell, List.length_cons, List.length_append, List.length_nil] at hb
    have body := readMembers_spell hp true [] budget levels (by omega) (by omega) rest
    have shape : (spell (.object members)).map Piece.char ++ rest =
        .char '\x7b' :: ((spellMembers members true).map Piece.char ++ .char '\x7d' :: rest) := by
      simp [spell]
    rw [shape, readJson, skipBlanks_of_opens (by decide)]
    simpa [Text.isDigit, tidy] using body

/-- Plain items are read one after the other, each of them tidy. -/
lemma readItems_spell {items : List Json} (hp : plainItems items = true) (first : Bool) (read : List Json)
    (budget levels : Nat) (hb : (spellItems items first).length < budget) (hl : depthItems items ≤ levels)
    (rest : List Piece) :
    readItems budget levels read first ((spellItems items first).map Piece.char ++ .char ']' :: rest) =
      .ok (.array (read.reverse ++ tidyItems items), rest) := by
  obtain ⟨budget, rfl⟩ : ∃ n, budget = n + 1 := ⟨budget - 1, by omega⟩
  match items with
  | [] => simp [spellItems, readItems, nextItem, skipBlanks, tidyItems]
  | item :: items =>
    rw [plainItems, Bool.and_eq_true] at hp
    rw [depthItems] at hl
    have positive := length_spell_pos hp.1
    simp only [spellItems, List.length_append] at hb
    rw [spellItems, List.map_append, List.append_assoc, readItems, nextItem_spell hp.1]
    -- What follows the item ends a number, whether it is a comma or the bracket.
    have here := reads_spell hp.1 budget levels _ (by omega) (by omega) (endsNumber_spellItems items rest)
    have others := readItems_spell hp.2 false (tidy item :: read) budget levels (by omega) (by omega) rest
    simp only [here, others, tidyItems, List.reverse_cons, List.append_assoc, List.cons_append, List.nil_append]

/-- Plain members are read one after the other, and brought into the order of their keys at the end. -/
lemma readMembers_spell {members : List (String × Json)} (hp : plainMembers members = true) (first : Bool)
    (read : List (String × Json)) (budget levels : Nat) (hb : (spellMembers members first).length < budget)
    (hl : depthMembers members ≤ levels) (rest : List Piece) :
    readMembers budget levels read first ((spellMembers members first).map Piece.char ++ .char '\x7d' :: rest) =
      .ok (.ofMembers (read.reverse ++ tidyMembers members), rest) := by
  obtain ⟨budget, rfl⟩ : ∃ n, budget = n + 1 := ⟨budget - 1, by omega⟩
  match members with
  | [] => simp [spellMembers, readMembers, nextKey, skipBlanks, tidyMembers]
  | (key, value) :: members =>
    rw [plainMembers, Bool.and_eq_true] at hp
    rw [depthMembers] at hl
    have positive := length_spell_pos hp.1
    simp only [spellMembers, List.length_append, List.length_cons] at hb
    have shape : spellMembers ((key, value) :: members) first = ((if first then [] else [',']) ++ spellString key) ++
        ':' :: (spell value ++ spellMembers members false) := by
      simp [spellMembers]
    have here := reads_spell hp.1 budget levels _ (by omega) (by omega) (endsNumber_spellMembers members rest)
    have others := readMembers_spell hp.2 false ((key, tidy value) :: read) budget levels (by omega) (by omega) rest
    rw [shape, List.map_append, List.append_assoc, readMembers, nextKey_spell]
    simp only [readText_spell key budget (by omega)]
    simp [readColon, skipBlanks, here, others, tidyMembers]

end

/-! ## Order -/

mutual

/-- The keys of every object are in order, each of them there once. -/
def ordered : Json → Bool
  | .array items => orderedItems items
  | .object members => decide ((members.map Prod.fst).Pairwise (· < ·)) && orderedMembers members
  | _ => true

/-- Each item is in order. -/
def orderedItems : List Json → Bool
  | [] => true
  | item :: rest => ordered item && orderedItems rest

/-- The value of each member is in order. -/
def orderedMembers : List (String × Json) → Bool
  | [] => true
  | (_, value) :: rest => ordered value && orderedMembers rest

end

/-- Members in order stay as they are. -/
lemma canonical_of_pairwise {members : List (String × Json)} (h : (members.map Prod.fst).Pairwise (· < ·)) :
    canonical members = members := by
  rw [List.pairwise_map] at h
  rw [canonical, List.mergeSort_of_pairwise (h.imp fun hab => by simpa using Std.le_of_lt hab)]
  induction h with
  | nil => rfl
  | @cons member rest before _ ih =>
    rw [List.foldr_cons, ih]
    cases rest with
    | nil => rfl
    | cons next rest => rw [keepLast, if_neg (String.ne_of_lt (before next (.head _)))]

mutual

/-- A value in order is tidy. -/
lemma tidy_of_ordered {j : Json} (h : ordered j = true) : tidy j = j := by
  match j with
  | .null | .bool _ | .integer _ | .float _ | .string _ => rfl
  | .array items =>
    rw [ordered] at h
    rw [tidy, tidyItems_of_ordered h]
  | .object members =>
    rw [ordered, Bool.and_eq_true, decide_eq_true_eq] at h
    rw [tidy, tidyMembers_of_ordered h.2, ofMembers, canonical_of_pairwise h.1]

/-- Items in order are tidy. -/
lemma tidyItems_of_ordered {items : List Json} (h : orderedItems items = true) : tidyItems items = items := by
  match items with
  | [] => rfl
  | item :: rest =>
    rw [orderedItems, Bool.and_eq_true] at h
    rw [tidyItems, tidy_of_ordered h.1, tidyItems_of_ordered h.2]

/-- Members whose values are in order are tidy. -/
lemma tidyMembers_of_ordered {members : List (String × Json)} (h : orderedMembers members = true) :
    tidyMembers members = members := by
  match members with
  | [] => rfl
  | (key, value) :: rest =>
    rw [orderedMembers, Bool.and_eq_true] at h
    rw [tidyMembers, tidy_of_ordered h.1, tidyMembers_of_ordered h.2]

end

/-! ## Whole texts -/

/-- A plain value is written on one line. -/
lemma newline_not_mem {j : Json} (hp : plain j = true) : 10 ∉ Text.encode j.chars := by
  intro inside
  rw [chars_eq] at inside
  have control := not_control_of_mem_spell hp (Text.mem_of_mem_encode (by decide) inside)
  exact absurd control (by decide)

/-- What a reader takes a text for is what it makes of the bytes of the text. -/
lemma Reads.run {α : Type} {reader : Reader α} {text : List Char} {depth levels : Nat} {a : α}
    (h : Reads reader text depth a) (hl : depth ≤ levels) : Reader.run reader levels (Text.encode text) = .ok a := by
  have whole := h (budget (text.map Piece.char)) levels []
    (by rw [budget, List.length_map]; omega) hl rfl
  rw [List.append_nil] at whole
  rw [Reader.run, Text.decode_encode]
  simp only [whole]
  rfl

/-- A plain value of no more than the depth of a message is read back from its bytes with its objects in order. -/
theorem ofBytes_chars {j : Json} (hp : plain j = true) (hd : depth j ≤ depthLimit) :
    ofBytes (Text.encode j.chars) = .ok (tidy j) := by
  rw [chars_eq]
  exact (reads_spell hp).run hd

end FocusJournal.Json
