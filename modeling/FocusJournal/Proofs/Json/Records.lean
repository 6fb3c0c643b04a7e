import FocusJournal.Json.Format
import FocusJournal.Proofs.Json.Reading

/-!
# Reading written records

What the formats make of the text of a value. A record that is written as an object of some of its fields is read back
field by field: a `Record.Member` is a written member with what it puts into the record, and `Record.reads_members` puts
the members in one after the other, provided no key comes twice and none is lacking.
-/

namespace FocusJournal

open Text (Piece)
open Json (spell depth plain Reads)

namespace Format

/-- A truth value is read from its word. -/
lemma reads_bool (b : Bool) : Reads bool.reader (spell (.bool b)) 0 b := by
  intro budget levels rest _ _ _
  cases b <;> simp [bool, looking, spell, Json.skipBlanks, Json.readWord, Except.map]

/-- A text is read from its string. -/
lemma reads_string (s : String) : Reads string.reader (spell (.string s)) 0 s := by
  intro budget levels rest hb _ _
  have text := Json.readText_spell s budget (Nat.le_succ_of_le hb) rest
  rw [spell, Json.spellString, List.map_cons, List.cons_append]
  simpa only [string, looking, Json.skipBlanks_of_opens (show Json.opens '"' = true by decide)] using text

/-- A value whose objects are in order is read as it was written. -/
lemma reads_json {j : Json} (hp : plain j = true) (ho : j.ordered = true) : Reads json.reader (spell j) (depth j) j := by
  have h := Json.reads_spell hp
  rwa [Json.tidy_of_ordered ho] at h

/-- Only null begins as null does. -/
lemma ne_null_of_spell {j : Json} (hp : plain j = true) (hj : j ≠ .null) {c : Char} {cs : List Char}
    (h : spell j = c :: cs) : c ≠ 'n' := by
  rintro rfl
  match j with
  | .null => exact hj rfl
  | .bool true | .bool false | .string _ | .array _ | .object _ => cases h
  | .integer n =>
    obtain ⟨c, cs, eq, hc⟩ := Json.exists_integerChars n
    rw [spell, eq] at h
    injection h with h
    rw [h] at hc
    exact absurd hc (by decide)
  | .float _ => rw [plain] at hp; cases hp

/-- A value that is there is not taken for null. -/
lemma reads_optional {α : Type} {f : Format α} {j : Json} {d : Nat} {a : α} (h : Reads f.reader (spell j) d a)
    (hp : plain j = true) (hj : j ≠ .null) : Reads f.optional.reader (spell j) d (some a) := by
  intro budget levels rest hb hl hr
  have here := h budget levels rest hb hl hr
  obtain ⟨c, cs, eq, hc⟩ := Json.exists_spell hp
  have hn := ne_null_of_spell hp hj eq
  rw [eq, List.map_cons, List.cons_append] at here ⊢
  simp only [optional, looking, Json.skipBlanks_of_opens hc]
  split
  · next letter => exact absurd (Piece.char.inj letter) hn
  · simp [here, Except.map]

end Format

/-- A field reads what its format reads, and puts that into the record. -/
lemma Field.reads_of {α β : Type} {name : String} {f : Format β} {put : β → α → α} {required : Bool}
    {text : List Char} {d : Nat} {b : β} (h : Reads f.reader text d b) :
    Reads (Field.of name f put required).reader text d (put b) := by
  intro budget levels rest hb hl hr
  simp [Field.of, h budget levels rest hb hl hr, Except.map]

namespace Record

variable {α : Type} (r : Record α)

/-- A member as it is written, with what it puts into the record. -/
structure Member (α : Type) where
  key : String
  value : Json
  put : α → α

namespace Member

/-- The member as it stands in the object. -/
def written (m : Member α) : String × Json := (m.key, m.value)

/-- The record after members. -/
def fill (a : α) (members : List (Member α)) : α := members.foldl (fun a m => m.put a) a

end Member

/-- A record has the field of a member, and its values are read as the member says. -/
def Takes (m : Member α) : Prop :=
  plain m.value = true ∧ ∃ f, r.field? m.key = some f ∧ Reads f.reader (spell m.value) (depth m.value) m.put

variable {r}

/-- The field that is found under a name has that name. -/
lemma name_of_field? {name : String} {f : Field α} (h : r.field? name = some f) : f.name = name := by
  have := List.find?_some h
  simpa using this

/-- Members with different keys are read one after the other. -/
lemma readMembers_spell {members : List (Member α)} (ht : ∀ m ∈ members, r.Takes m) (first : Bool) (a : α)
    (given : List String) (once : (members.map Member.key).Nodup) (new : ∀ m ∈ members, m.key ∉ given)
    (complete : r.lacking ((members.map Member.key).reverse ++ given) = none) (budget levels : Nat)
    (hb : (Json.spellMembers (members.map Member.written) first).length < budget)
    (hl : Json.depthMembers (members.map Member.written) ≤ levels) (rest : List Piece) :
    r.readMembers budget levels a given first
        ((Json.spellMembers (members.map Member.written) first).map Piece.char ++ .char '\x7d' :: rest) =
      .ok (Member.fill a members, rest) := by
  induction members generalizing first a given budget with
  | nil =>
    obtain ⟨budget, rfl⟩ : ∃ n, budget = n + 1 := ⟨budget - 1, by omega⟩
    have none_lacking : r.lacking given = none := by simpa using complete
    simp [Json.spellMembers, readMembers, Json.nextKey, Json.skipBlanks, none_lacking, Member.fill]
  | cons m members ih =>
    obtain ⟨budget, rfl⟩ : ∃ n, budget = n + 1 := ⟨budget - 1, by omega⟩
    obtain ⟨hp, f, hf, reads⟩ := ht m (.head _)
    rw [List.map_cons, Member.written, Json.depthMembers] at hl
    simp only [List.map_cons, Member.written, Json.spellMembers, List.length_append, List.length_cons] at hb
    have positive := Json.length_spell_pos hp
    rw [List.map_cons, List.nodup_cons] at once
    have unseen : given.contains f.name = false := by
      simpa [name_of_field? hf] using new m (.head _)
    have shape : Json.spellMembers ((m :: members).map Member.written) first =
        ((if first then [] else [',']) ++ Json.spellString m.key) ++
          ':' :: (spell m.value ++ Json.spellMembers (members.map Member.written) false) := by
      simp [Json.spellMembers, Member.written]
    have here := reads budget levels _ (by omega) (by omega)
      (Json.endsNumber_spellMembers (members.map Member.written) rest)
    have others := ih (fun m hm => ht m (.tail _ hm)) false (m.put a) (m.key :: given) once.2
      (fun m' hm' => List.not_mem_cons_of_ne_of_not_mem
        (fun same => once.1 (same ▸ List.mem_map_of_mem hm')) (new m' (.tail _ hm')))
      (by simpa using complete) budget (by omega) (by omega)
    rw [shape, List.map_append, List.append_assoc, readMembers, Json.nextKey_spell]
    simp only [Json.readText_spell m.key budget (by omega), hf, unseen]
    simp [Json.readColon, Json.skipBlanks, bind, Except.bind, here, name_of_field? hf, others, Member.fill]

/-- A record is read from the object of its members. -/
theorem reads_members {members : List (Member α)} (ht : ∀ m ∈ members, r.Takes m)
    (once : (members.map Member.key).Nodup) (complete : r.lacking (members.map Member.key).reverse = none) :
    Reads r.format.reader (spell (.object (members.map Member.written))) (depth (.object (members.map Member.written)))
      (Member.fill r.blank members) := by
  intro budget levels rest hb hl _
  rw [depth] at hl
  obtain ⟨levels, rfl⟩ : ∃ n, levels = n + 1 := ⟨levels - 1, by omega⟩
  simp only [spell, List.length_cons, List.length_append, List.length_nil] at hb
  have body := readMembers_spell ht true r.blank [] once (fun _ _ => List.not_mem_nil) (by simpa using complete)
    budget levels (by omega) (by omega) rest
  have shape : (spell (.object (members.map Member.written))).map Piece.char ++ rest =
      .char '\x7b' :: ((Json.spellMembers (members.map Member.written) true).map Piece.char ++ .char '\x7d' :: rest) := by
    simp [spell]
  rw [shape]
  simpa only [format, Format.looking, Json.skipBlanks_of_opens (show Json.opens '\x7b' = true by decide)] using body

end Record

/-- A format reads back the bytes of a value, unless the value is too deep for a message. -/
lemma Format.ofBytes_chars {α : Type} {f : Format α} {j : Json} {a : α} (h : Reads f.reader (spell j) (depth j) a)
    (hd : depth j ≤ Json.depthLimit) : f.ofBytes (Text.encode j.chars) = .ok a := by
  rw [ofBytes, Json.chars_eq]
  exact h.run hd

end FocusJournal
