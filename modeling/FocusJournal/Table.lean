/-!
# Tables

A table gives values to keys. Putting a value to a key replaces the one it had.

* `Table.get?_put`: a table after `put` gives the new value to the key and the old ones to all others.
* `Table.get?_ofList`: of several entries for a key the last one counts in the table made of them.
-/

namespace FocusJournal

/-- Keys with their values, no key twice unless written so; of two entries for a key the first one counts. -/
abbrev Table (κ α : Type) := List (κ × α)

namespace Table

variable {κ α : Type} [DecidableEq κ]

/-- The value of a key. -/
def get? (t : Table κ α) (k : κ) : Option α := (t.find? fun entry => entry.1 = k).map Prod.snd

/-- The table with a value put to a key. -/
def put (t : Table κ α) (k : κ) (a : α) : Table κ α := (k, a) :: t.filter fun entry => entry.1 ≠ k

/-- The table with the value of a key changed, if it has one. -/
def change (t : Table κ α) (k : κ) (f : α → α) : Table κ α :=
  t.map fun entry => if entry.1 = k then (entry.1, f entry.2) else entry

/-- The table that entries make when each is put after the ones before it. -/
def ofList (entries : List (κ × α)) : Table κ α := entries.reverse

/-- There is nothing in an empty table. -/
@[simp] theorem get?_nil (k : κ) : get? ([] : Table κ α) k = none := rfl

/-- The first entry of a key counts. -/
theorem get?_cons (entry : κ × α) (t : Table κ α) (k : κ) :
    get? (entry :: t) k = if entry.1 = k then some entry.2 else get? t k := by
  by_cases h : entry.1 = k <;> simp [get?, h]

/-- What is thrown out for one key is not missed by another. -/
theorem get?_filter_ne (t : Table κ α) (k k' : κ) (h : k' ≠ k) :
    get? (t.filter fun entry => entry.1 ≠ k) k' = get? t k' := by
  induction t with
  | nil => rfl
  | cons entry t ih =>
    by_cases hk : entry.1 = k
    · have hk' : entry.1 ≠ k' := fun e => h (e.symm.trans hk)
      rw [List.filter_cons_of_neg (by simpa using hk), ih, get?_cons, if_neg hk']
    · rw [List.filter_cons_of_pos (by simpa using hk), get?_cons, get?_cons, ih]

/-- What is put under a key is found there, and nothing else changes. -/
theorem get?_put (t : Table κ α) (k k' : κ) (a : α) :
    (t.put k a).get? k' = if k' = k then some a else t.get? k' := by
  rw [put, get?_cons]
  by_cases h : k' = k
  · simp [h]
  · rw [if_neg (fun e => h e.symm), if_neg h, get?_filter_ne t k k' h]

/-- What is under a key is changed, and nothing else is. -/
theorem get?_change (t : Table κ α) (k k' : κ) (f : α → α) :
    (t.change k f).get? k' = if k' = k then (t.get? k').map f else t.get? k' := by
  induction t with
  | nil => simp [change]
  | cons entry t ih =>
    simp only [change, List.map_cons] at ih ⊢
    by_cases hk : entry.1 = k
    · rw [if_pos hk, get?_cons, ih, get?_cons]
      by_cases h : k' = k
      · subst h; simp [hk]
      · have : entry.1 ≠ k' := fun e => h (e.symm.trans hk)
        simp [h, this]
    · rw [if_neg hk, get?_cons, ih, get?_cons]
      by_cases h : k' = k
      · subst h; simp [hk]
      · simp [h]

/-- Of several entries with one key the last counts. -/
theorem get?_ofList (entries : List (κ × α)) (k : κ) :
    (ofList entries).get? k = ((entries.filter fun entry => entry.1 = k).getLast?).map Prod.snd := by
  rw [List.getLast?_filter]
  rfl

end Table

end FocusJournal
