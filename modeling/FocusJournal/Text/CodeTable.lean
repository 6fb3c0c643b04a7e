/-!
# Tables of characters

A table says something of code points. It is a list of runs in ascending order, written compactly as numbers in a text:
first the gap before a run, then what the run consists of.

* `CodeTable.ofSets`, `CodeTable.ofValues` and `CodeTable.ofSequences` read the written forms.
* `CodeTable.find?` searches by halves.
-/

namespace FocusJournal.Text

/-- The numbers of a text, each ended by a character that is no digit. -/
def numbers (s : String) : List Nat :=
  let close (read : List Nat) : Option Nat → List Nat
    | none => read
    | some n => n :: read
  let step (state : List Nat × Option Nat) (c : Char) : List Nat × Option Nat :=
    if '0' ≤ c ∧ c ≤ '9' then (state.1, some (10 * state.2.getD 0 + (c.toNat - 48)))
    else (close state.1 state.2, none)
  let (read, last) := s.toList.foldl step ([], none)
  (close read last).reverse

/-- A run of code points, both ends included, and what is said of it. -/
structure Run (α : Type) where
  first : Nat
  last : Nat
  value : α

/-- What is said of code points: runs that ascend. -/
structure CodeTable (α : Type) where
  runs : Array (Run α)

namespace CodeTable

variable {α : Type}

/-- Runs written as gap and length, after the code points below `start`; those found come last first. -/
def setsFrom (found : List (Run Unit)) (start : Nat) : List Nat → List (Run Unit)
  | gap :: length :: rest =>
    setsFrom (⟨start + gap, start + gap + length - 1, ()⟩ :: found) (start + gap + length) rest
  | _ => found.reverse

/-- The table of a text of gaps and lengths, which is a set. -/
def ofSets (s : String) : CodeTable Unit := ⟨(setsFrom [] 0 (numbers s)).toArray⟩

/-- Runs written as gap, length and a number. -/
def valuesFrom (found : List (Run Nat)) (start : Nat) : List Nat → List (Run Nat)
  | gap :: length :: value :: rest =>
    valuesFrom (⟨start + gap, start + gap + length - 1, value⟩ :: found) (start + gap + length) rest
  | _ => found.reverse

/-- The table of a text of gaps, lengths and numbers. -/
def ofValues (s : String) : CodeTable Nat := ⟨(valuesFrom [] 0 (numbers s)).toArray⟩

/-- Single code points written as gap, the length of a sequence and its code points. -/
def sequencesFrom (found : List (Run (List Char))) (start : Nat) : List Nat → List (Run (List Char))
  | gap :: length :: rest =>
    sequencesFrom (⟨start + gap, start + gap, (rest.take length).map Char.ofNat⟩ :: found) (start + gap + 1)
      (rest.drop length)
  | _ => found.reverse
termination_by numbers => numbers.length
decreasing_by simp only [List.length_drop, List.length_cons]; omega

/-- The table of a text of gaps and sequences. -/
def ofSequences (s : String) : CodeTable (List Char) := ⟨(sequencesFrom [] 0 (numbers s)).toArray⟩

/-- The run with an index from `low` to below `high` that holds the code point. -/
def search? (t : CodeTable α) (code : Nat) (low high : Nat) : Option (Run α) :=
  if low < high then
    let middle := (low + high) / 2
    match t.runs[middle]? with
    | none => none
    | some run =>
      if code < run.first then t.search? code low middle
      else if run.last < code then t.search? code (middle + 1) high
      else some run
  else none
termination_by high - low

/-- The run that holds a character. -/
def find? (t : CodeTable α) (c : Char) : Option (Run α) := t.search? c.toNat 0 t.runs.size

/-- What is said of a character. -/
def value? (t : CodeTable α) (c : Char) : Option α := (t.find? c).map Run.value

/-- Whether anything is said of a character. -/
def contains (t : CodeTable α) (c : Char) : Bool := (t.find? c).isSome

end CodeTable

end FocusJournal.Text
