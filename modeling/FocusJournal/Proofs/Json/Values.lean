import FocusJournal.Proofs.Json.Records
import Mathlib.Data.List.Sort

/-!
# Reading records from values

What the formats make of a value once its text has been read. Reading brings the members of every object into the order
of their keys (`tidy`), so a record is given its fields in that order and not in the one they were written in. That
does not matter where no field undoes what another one has put into the record (`Record.Gives.ofMembers_tidied`).

A format `Means` a value for what it stands for if it takes it for that after it was read; `Record.Gives.means` says so
of the object of a record's members.
-/

namespace FocusJournal

open Json (tidy)

namespace Json

/-- Items become tidy one by one. -/
lemma tidyItems_eq (items : List Json) : tidyItems items = items.map tidy := by
  induction items with
  | nil => rfl
  | cons item items ih => rw [tidyItems, ih, List.map_cons]

/-- Members become tidy one by one, with their keys kept. -/
lemma tidyMembers_eq (members : List (String × Json)) : tidyMembers members = members.map fun m => (m.1, tidy m.2) := by
  induction members with
  | nil => rfl
  | cons m members ih => rw [tidyMembers, ih, List.map_cons]

/-- Sorting by keys brings keys into their order. -/
lemma pairwise_mergeSort_key {α : Type} (key : α → String) (l : List α) :
    (l.mergeSort fun a b => decide (key a ≤ key b)).Pairwise fun a b => key a ≤ key b := by
  have order : (l.mergeSort fun a b => decide (key a ≤ key b)).Pairwise fun a b => decide (key a ≤ key b) = true := by
    refine List.pairwise_mergeSort (fun a b c hab hbc => ?_) (fun a b => by simpa using Std.le_total) l
    rw [decide_eq_true_eq] at *
    exact Std.le_trans hab hbc
  exact order.imp fun h => of_decide_eq_true h

/-- Members with different keys come into the one order that their keys have. -/
lemma canonical_of_perm {written sorted : List (String × Json)} (perm : written.Perm sorted)
    (order : (sorted.map Prod.fst).Pairwise (· < ·)) : canonical written = sorted := by
  have apart : sorted.Pairwise fun a b => a.1 < b.1 := List.pairwise_map.1 order
  have merged : written.mergeSort (fun a b => decide (a.1 ≤ b.1)) = sorted := by
    have permuted := (List.mergeSort_perm written fun a b => decide (a.1 ≤ b.1)).trans perm
    have unique : ∀ a ∈ sorted, ∀ b ∈ sorted, a.1 = b.1 → a = b :=
      List.inj_on_of_nodup_map (order.imp fun h => String.ne_of_lt h)
    refine permuted.eq_of_pairwise ?_ (pairwise_mergeSort_key Prod.fst written) (apart.imp fun h => Std.le_of_lt h)
    intro a b ha hb hab hba
    exact unique a (permuted.mem_iff.1 ha) b hb (Std.le_antisymm hab hba)
  rw [← canonical_of_pairwise order, canonical, canonical, merged,
    List.mergeSort_of_pairwise (apart.imp fun h => by simpa using Std.le_of_lt h)]

end Json

namespace Format

variable {α : Type}

/-- What was written as a value is taken for something once it is read. -/
def Means (f : Format α) (j : Json) (a : α) : Prop := f.ofJson (tidy j) = .ok a

/-- A truth value is taken for itself. -/
lemma means_bool (b : Bool) : bool.Means (.bool b) b := rfl

/-- A string is taken for its text. -/
lemma means_string (s : String) : string.Means (.string s) s := rfl

/-- An integer of 64 bits with a sign is taken for itself. -/
lemma means_int64 (n : Int64) : int64.Means (.integer n.toInt) n := by
  have low : -9223372036854775808 ≤ n.toInt := Int64.le_toInt n
  have high : n.toInt ≤ 9223372036854775807 := by have := Int64.toInt_lt n; omega
  simp [Means, int64, integer, tidy, Text.toInt64?, low, high]

/-- An integer of 32 bits without a sign is taken for itself. -/
lemma means_uint32 (n : UInt32) : uint32.Means (.integer n.toNat) n := by
  have high : (n.toNat : Int) ≤ 4294967295 := by have := n.toNat_lt; omega
  simp [Means, uint32, integer, tidy, high]

/-- What may be missing is taken for what is there if it is not null. -/
lemma means_optional {f : Format α} {j : Json} {a : α} (h : f.Means j a) (hj : tidy j ≠ .null) :
    f.optional.Means j (some a) := by
  rw [Means] at h
  simp only [Means, optional, h]
  rfl

/-- A list is taken for what its items are taken for, in order. -/
lemma means_list {f : Format α} {write : α → Json} (h : ∀ a, f.Means (write a) a) (as : List α) :
    f.list.Means (.array (as.map write)) as := by
  rw [Means, tidy, Json.tidyItems_eq, List.map_map]
  change (as.map (tidy ∘ write)).mapM f.ofJson = _
  induction as with
  | nil => rfl
  | cons a as ih =>
    rw [List.map_cons, List.mapM_cons, ih, Function.comp_apply, h a]
    rfl

end Format

/-- A field takes a value as its format does, and puts that into the record. -/
lemma Field.ofJson_of {α β : Type} {name : String} {f : Format β} {put : β → α → α} {required : Bool} {j : Json} {b : β}
    (h : f.Means j b) : (Field.of name f put required).ofJson (tidy j) = .ok (put b) := by
  rw [Format.Means] at h
  simp [Field.of, h, Except.map]

namespace Record

variable {α : Type} {r : Record α}

namespace Member

/-- A member as it is read. -/
def tidied (m : Member α) : String × Json := (m.key, tidy m.value)

/-- The members of a record are read as they were written, with tidy values. -/
lemma tidyMembers_written (members : List (Member α)) :
    Json.tidyMembers (members.map written) = members.map tidied := by
  rw [Json.tidyMembers_eq, List.map_map]
  rfl

/-- Members are read under the keys that they were written under. -/
lemma keys_tidied (members : List (Member α)) : (members.map tidied).map Prod.fst = members.map key := by
  rw [List.map_map]
  rfl

end Member

/-- A record has the field of a member, and its value is taken for what the member says. -/
def Holds (r : Record α) (m : Member α) : Prop := ∃ f, r.field? m.key = some f ∧ f.ofJson (tidy m.value) = .ok m.put

/-- Members that a record has fields for are put into it one after the other. -/
lemma foldlM_putMember {members : List (Member α)} (holds : ∀ m ∈ members, r.Holds m) (a : α) (given : List String) :
    (members.map Member.tidied).foldlM r.putMember (a, given) =
      .ok (Member.fill a members, (members.map Member.key).reverse ++ given) := by
  induction members generalizing a given with
  | nil => rfl
  | cons m members ih =>
    obtain ⟨f, hf, value⟩ := holds m (.head _)
    have here : r.putMember (a, given) m.tidied = .ok (m.put a, m.key :: given) := by
      simp [putMember, Member.tidied, hf, value, Except.map, name_of_field? hf]
    rw [List.map_cons, List.foldlM_cons, here]
    change (members.map Member.tidied).foldlM r.putMember (m.put a, m.key :: given) = _
    rw [ih fun m hm => holds m (.tail _ hm)]
    simp [Member.fill]

/-- Members give a record, in whatever order they come. -/
structure Gives (r : Record α) (members : List (Member α)) (a : α) : Prop where
  holds : ∀ m ∈ members, r.Holds m
  once : (members.map Member.key).Nodup
  /-- No member undoes what another one has put into the record. -/
  apart : ∀ m ∈ members, ∀ n ∈ members, ∀ b, m.put (n.put b) = n.put (m.put b)
  complete : r.lacking (members.map Member.key).reverse = none
  filled : Member.fill r.blank members = a

/-- Which field is lacking does not depend on the order of those that are given. -/
lemma lacking_of_perm {given given' : List String} (perm : given.Perm given') : r.lacking given = r.lacking given' := by
  have same (name : String) : given.contains name = given'.contains name := by
    rw [Bool.eq_iff_iff, List.contains_iff_mem, List.contains_iff_mem, perm.mem_iff]
  simp only [lacking, same]

/-- Members with different keys can be brought into the order of their keys. -/
lemma Member.exists_sorted {members : List (Member α)} (once : (members.map key).Nodup) :
    ∃ sorted : List (Member α), sorted.Perm members ∧ (sorted.map key).Pairwise (· < ·) := by
  have perm := List.mergeSort_perm members fun m n => decide (m.key ≤ n.key)
  have different := List.pairwise_map.1 ((perm.map key).nodup_iff.2 once)
  refine ⟨_, perm, List.pairwise_map.2 (((Json.pairwise_mergeSort_key key members).and different).imp fun h => ?_)⟩
  exact Std.lt_of_le_of_ne h.1 h.2

namespace Gives

variable {members : List (Member α)} {a : α}

/-- A record is given by its members as they are read, in any order. -/
theorem ofMembers_tidied (h : r.Gives members a) {sorted : List (Member α)} (perm : sorted.Perm members) :
    r.ofMembers (sorted.map Member.tidied) = .ok a := by
  have complete : r.lacking (sorted.map Member.key).reverse = none := by
    rw [← h.complete]
    exact lacking_of_perm (((List.reverse_perm _).trans (perm.map _)).trans (List.reverse_perm _).symm)
  have filled : Member.fill r.blank sorted = a := by
    rw [← h.filled]
    -- Since no member undoes another, the members can be put in in the order of their keys.
    exact perm.foldl_eq' (fun m hm n hn b => h.apart n (perm.mem_iff.1 hn) m (perm.mem_iff.1 hm) b) r.blank
  rw [ofMembers, foldlM_putMember fun m hm => h.holds m (perm.mem_iff.1 hm)]
  simp [bind, Except.bind, complete, filled]

/-- The object of the members has them in some order once it is read. -/
lemma exists_tidy (h : r.Gives members a) :
    ∃ sorted : List (Member α), sorted.Perm members ∧
      tidy (.object (members.map Member.written)) = .object (sorted.map Member.tidied) := by
  obtain ⟨sorted, perm, order⟩ := Member.exists_sorted h.once
  refine ⟨sorted, perm, ?_⟩
  rw [tidy, Member.tidyMembers_written, Json.ofMembers]
  exact congrArg Json.object (Json.canonical_of_perm (perm.symm.map _) (by rwa [Member.keys_tidied]))

/-- The object of the members is taken for the record. -/
theorem means (h : r.Gives members a) : r.format.Means (.object (members.map Member.written)) a := by
  obtain ⟨sorted, perm, brought⟩ := h.exists_tidy
  rw [Format.Means, brought]
  exact h.ofMembers_tidied perm

end Gives

end Record

end FocusJournal
