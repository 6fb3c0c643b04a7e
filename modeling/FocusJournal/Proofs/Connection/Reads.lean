import FocusJournal.Connection.Request
import Mathlib.Tactic.Lemma

/-!
# Requests from reads

Reads are taken up to the one that ends the line, and a request is received as what they bring: `receive_ended`. A
request that is sent as one line is received as that line, however its bytes are cut into reads, unless it is too long
or blank: `receive_line`.
-/

namespace FocusJournal.Request

/-! ## Lines -/

/-- A line that keeps within the limit is a request unless it is blank. -/
def ofLine (line : List UInt8) : Except Refusal (List UInt8) :=
  if line.all Text.isAsciiBlank then .error .empty else .ok line

/-- The line of bytes stands before its end. -/
lemma lineOf_line {line : List UInt8} (inside : lineEnd ∉ line) (rest : List UInt8) :
    lineOf (line ++ lineEnd :: rest) = line := by
  rw [lineOf, List.takeWhile_append_of_pos fun b hb => by simpa using ne_of_mem_of_not_mem hb inside]
  simp

/-- What comes behind the end of the line is no part of it. -/
lemma lineOf_append {bytes : List UInt8} (h : lineEnd ∈ bytes) (more : List UInt8) :
    lineOf (bytes ++ more) = lineOf bytes := by
  obtain ⟨line, rest, rfl, inside⟩ := List.eq_append_cons_of_mem h
  rw [List.append_assoc, List.cons_append, lineOf_line inside, lineOf_line inside]

/-! ## Reads -/

/-- Reads that do not end the line are taken if they keep within the limit. -/
lemma taken_append {ending : Ending} {before : List (List UInt8)} (rest : List (List UInt8)) {count : Nat}
    (ongoing : lineEnd ∉ before.flatten) (within : count ≤ maxBytes) :
    taken ending count (before ++ rest) =
      if maxBytes < count + before.flatten.length then .error .tooLarge
      else (taken ending (count + before.flatten.length) rest).map (before ++ ·) := by
  induction before generalizing count with
  | nil =>
    rw [if_neg (by simpa using within)]
    cases h : taken ending count rest <;> simp [h, Except.map]
  | cons read before ih =>
    rw [List.flatten_cons, List.mem_append, not_or] at ongoing
    rw [List.flatten_cons, List.length_append, ← Nat.add_assoc, List.cons_append, taken]
    by_cases beyond : maxBytes < count + read.length
    · rw [if_pos beyond, if_pos (by omega)]
    · rw [if_neg beyond, if_neg (by simpa using ongoing.1), ih ongoing.2 (Nat.not_lt.1 beyond)]
      split
      · rfl
      · cases taken ending _ rest <;> rfl

/-- A request is what the line of the reads that are taken makes of it. -/
lemma receive_eq (ending : Ending) (reads : List (List UInt8)) :
    receive ending reads = (taken ending 0 reads).bind fun reads => ofLine (lineOf reads.flatten) := by
  rw [receive]
  cases taken ending 0 reads <;> rfl

/-- The read that ends the line is the last one taken, and it counts as a whole. -/
lemma receive_ended {ending : Ending} {before : List (List UInt8)} {read : List UInt8} (after : List (List UInt8))
    (ongoing : lineEnd ∉ before.flatten) (ended : lineEnd ∈ read) :
    receive ending (before ++ read :: after) =
      if maxBytes < before.flatten.length + read.length then .error .tooLarge
      else ofLine (lineOf (before.flatten ++ read)) := by
  rw [receive_eq, taken_append _ ongoing (Nat.zero_le _), Nat.zero_add, taken]
  by_cases beyond : maxBytes < before.flatten.length + read.length
  · rw [if_pos beyond, if_pos beyond]
    split <;> rfl
  · rw [if_neg (by omega), if_neg beyond, if_neg beyond, if_pos (by simpa using ended)]
    simp [Except.map, Except.bind]

/-- One read is the first to end the line, if any does. -/
lemma exists_ended {reads : List (List UInt8)} (h : lineEnd ∈ reads.flatten) :
    ∃ before read after, reads = before ++ read :: after ∧ lineEnd ∉ before.flatten ∧ lineEnd ∈ read := by
  induction reads with
  | nil => simp at h
  | cons read reads ih =>
    by_cases here : lineEnd ∈ read
    · exact ⟨[], read, reads, rfl, by simp, here⟩
    · obtain ⟨before, ended, after, rfl, ongoing, there⟩ := ih (by simpa [here] using h)
      exact ⟨read :: before, ended, after, rfl, by simpa [here] using ongoing, there⟩

/-- The bytes of reads are those up to one of the reads, and then those of the reads behind it. -/
lemma flatten_eq (before : List (List UInt8)) (read : List UInt8) (after : List (List UInt8)) :
    (before ++ read :: after).flatten = (before.flatten ++ read) ++ after.flatten := by simp

/-- A line that is not blank is received as it was sent. -/
theorem receive_line {ending : Ending} {reads : List (List UInt8)} {line : List UInt8}
    (whole : reads.flatten = line ++ [lineEnd]) (inside : lineEnd ∉ line) (shown : line.all Text.isAsciiBlank = false)
    (short : (line ++ [lineEnd]).length ≤ maxBytes) : receive ending reads = .ok line := by
  obtain ⟨before, read, after, rfl, ongoing, here⟩ := exists_ended (show lineEnd ∈ reads.flatten by simp [whole])
  rw [flatten_eq] at whole
  have first : lineOf (before.flatten ++ read) = line := by
    rw [← lineOf_append (List.mem_append_right _ here) after.flatten, whole, lineOf_line inside]
  have size := congrArg List.length whole
  rw [List.length_append, List.length_append] at size
  rw [receive_ended after ongoing here, first, if_neg (by omega), ofLine, shown]
  rfl

/-- Bytes that are all there are cut into reads without loss. -/
lemma cutInto_flatten {size limit : Nat} {bytes : List UInt8} (hs : 0 < size) (hl : bytes.length ≤ limit) :
    (cutInto size limit bytes).flatten = bytes := by
  induction limit generalizing bytes with
  | zero => simp_all [cutInto]
  | succ limit ih =>
    rw [cutInto]
    split
    · next he => simp_all
    · next he =>
      have positive : 0 < bytes.length := List.length_pos_iff.2 (by simpa using he)
      rw [List.flatten_cons, ih (by rw [List.length_drop]; omega), List.take_append_drop]

/-- Cutting bytes into reads loses none of them. -/
lemma readsOf_flatten (bytes : List UInt8) : (readsOf bytes).flatten = bytes :=
  cutInto_flatten (by decide) (Nat.le_refl _)

end FocusJournal.Request
