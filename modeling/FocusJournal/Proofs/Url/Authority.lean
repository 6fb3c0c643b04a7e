import FocusJournal.Journal.AppName
import Mathlib.Data.List.TakeWhile
import Mathlib.Tactic.Lemma

/-!
# Where a port stands

An authority has its port after the first colon outside brackets. Where only an address in brackets has colons of its
own, what comes after the last colon says the same, since a port has no colons and an address ends with its bracket.

* `lastPort?` is the port that a text gives after its last colon, where the scan of a URL looks: `scannedPort?_eq`.
* `Url.Authority.lastPort?_of_ofText?` finds the port of an authority there.
-/

namespace FocusJournal

open Url (Host)
open Url.Authority (host? ofText? port? splitPort splitUser writtenPort?)

/-- The port that a numeral gives. -/
def portOf? (numeral : List Char) : Option Nat :=
  (Text.unsigned? numeral).bind fun n => if n ≤ 65535 then some n else none

/-- The port that a text gives after its last colon. -/
def lastPort? (cs : List Char) : Option Nat :=
  let port := (cs.reverse.takeWhile fun c => c ≠ ':').reverse
  if port.length = cs.length then none else portOf? port

/-- The scan reads what comes after the last colon of the host and the port that it takes for those of the URL. -/
lemma scannedPort?_eq (url : String) :
    scannedPort? url = (afterSlashes? (Text.trimChars url.toList)).bind fun rest =>
      lastPort? (splitUser (rest.takeWhile fun c => c ≠ '/' ∧ c ≠ '?' ∧ c ≠ '#')).2 := rfl

/-- Without a colon there is no port. -/
lemma lastPort?_of_not_mem {cs : List Char} (h : ':' ∉ cs) : lastPort? cs = none := by
  have whole : (cs.reverse.takeWhile fun c => c ≠ ':') = cs.reverse :=
    List.takeWhile_eq_self_iff.2 fun c hc => by simpa using ne_of_mem_of_not_mem (List.mem_reverse.1 hc) h
  rw [lastPort?, whole]
  simp

/-- The port stands behind the last colon. -/
lemma lastPort?_append {before port : List Char} (h : ':' ∉ port) : lastPort? (before ++ ':' :: port) = portOf? port := by
  have last : ((before ++ ':' :: port).reverse.takeWhile fun c => c ≠ ':') = port.reverse := by
    rw [List.reverse_append, List.reverse_cons, List.append_assoc,
      List.takeWhile_append_of_pos fun c hc => by simpa using ne_of_mem_of_not_mem (List.mem_reverse.1 hc) h]
    simp
  rw [lastPort?, last, List.reverse_reverse]
  exact if_neg (by simp only [List.length_append, List.length_cons]; omega)

/-- A numeral has digits only. -/
lemma isDigit_of_natural? {cs : List Char} {n : Nat} (h : Text.natural? cs = some n) {c : Char} (hc : c ∈ cs) :
    Text.isDigit c = true :=
  Text.isDigit_iff.trans ((Text.natural?_eq_some.1 h).2.1 c hc)

/-- A numeral with a closing bracket in it is no port. -/
lemma portOf?_of_bracket {numeral : List Char} (h : ']' ∈ numeral) : portOf? numeral = none := by
  have unread {cs : List Char} (hc : ']' ∈ cs) : Text.natural? cs = none :=
    Option.eq_none_iff_forall_ne_some.2 fun n read => absurd (isDigit_of_natural? read hc) (by decide)
  rw [portOf?, Text.unsigned?.eq_def]
  split
  · rw [unread (by simpa using h)]; rfl
  · rw [unread h]; rfl

/-- A text that ends with a bracket gives no port. -/
lemma lastPort?_of_bracket (cs : List Char) : lastPort? (cs ++ [']']) = none := by
  by_cases colon : ':' ∈ cs
  · obtain ⟨after, before, reversed, alone⟩ := List.eq_append_cons_of_mem (List.mem_reverse.2 colon)
    obtain rfl : cs = before.reverse ++ ':' :: after.reverse := by simpa using congrArg List.reverse reversed
    rw [List.append_assoc, List.cons_append, lastPort?_append (by simpa using alone), portOf?_of_bracket (by simp)]
  · exact lastPort?_of_not_mem (by simpa using colon)

namespace Url

/-- Brackets are read as a whole, around an address. -/
lemma Host.eq_bracketed {inNetwork : Bool} {cs : List Char} {host : Host}
    (h : host? inNetwork ('[' :: cs) = some host) : ∃ inner, cs = inner ++ [']'] := by
  have closed : cs.getLast? = some ']' := by
    by_contra hc
    cases inNetwork <;> simp [host?, Host.ofNetworkText?, Host.ofOpaqueText?, Host.ofBracketed?, hc] at h
  exact List.getLast?_eq_some_iff.1 closed

namespace Authority

/-- Splitting off the port loses no characters. -/
lemma splitPort_append (inside : Bool) (cs : List Char) :
    (splitPort inside cs).1 ++ (splitPort inside cs).2 = cs := by
  induction cs generalizing inside with
  | nil => rfl
  | cons c cs ih =>
    rw [splitPort]
    split
    · rfl
    · exact congrArg (c :: ·) (ih _)

/-- What is left for the port begins with the colon before it. -/
lemma splitPort_snd (inside : Bool) (cs : List Char) :
    (splitPort inside cs).2 = [] ∨ ∃ port, (splitPort inside cs).2 = ':' :: port := by
  induction cs generalizing inside with
  | nil => exact .inl rfl
  | cons c cs ih =>
    rw [splitPort]
    split
    · next outside => exact .inr ⟨cs, by rw [outside.1]⟩
    · exact ih _

/-- A port is left out, or it is a numeral of digits only. -/
lemma port?_eq_some {digits : List Char} {port : Option Nat} (h : port? digits = some port) :
    ':' ∉ digits ∧ portOf? digits = port := by
  rw [port?] at h
  split at h
  · next left =>
    obtain rfl := List.isEmpty_iff.1 left
    exact ⟨List.not_mem_nil, Option.some.inj h⟩
  · split at h
    · next n read =>
      have plain {c : Char} (hc : Text.isDigit c = false) : c ∉ digits := fun inside => by
        simp [isDigit_of_natural? read inside] at hc
      have unsigned : Text.unsigned? digits = some n := by
        rw [Text.unsigned?.eq_def]
        split
        · exact absurd List.mem_cons_self (plain (c := '+') (by decide))
        · exact read
      refine ⟨plain (by decide), ?_⟩
      rw [portOf?, unsigned, Option.bind_some]
      split at h
      · next fits => rw [if_pos fits]; exact Option.some.inj h
      · cases h
    · cases h

/-- A host says nothing behind its last colon, if it has colons in brackets only. -/
lemma lastPort?_of_host {inNetwork : Bool} {name : List Char} {host : Host} (named : host? inNetwork name = some host)
    (bracketed : ':' ∈ name → name.head? = some '[') : lastPort? name = none := by
  by_cases colon : ':' ∈ name
  · obtain ⟨address, rfl⟩ := List.head?_eq_some_iff.1 (bracketed colon)
    obtain ⟨inner, rfl⟩ := Host.eq_bracketed named
    exact lastPort?_of_bracket ('[' :: inner)
  · exact lastPort?_of_not_mem colon

/-- What is written behind a host is what stands behind the last colon. -/
lemma lastPort?_of_split {inNetwork : Bool} {cs : List Char} {host : Host} {port : Option Nat}
    (named : host? inNetwork (splitPort false cs).1 = some host)
    (bracketed : ':' ∈ (splitPort false cs).1 → (splitPort false cs).1.head? = some '[')
    (written : writtenPort? (splitPort false cs).2 = some port) (straight : '\\' ∉ cs) : lastPort? cs = port := by
  have parts := splitPort_append false cs
  rcases splitPort_snd false cs with none | ⟨digits, some⟩
  · rw [none, List.append_nil] at parts
    rw [none] at written
    rw [parts] at named bracketed
    exact (lastPort?_of_host named bracketed).trans (Option.some.inj written)
  · rw [some] at parts written
    have whole : (digits.takeWhile fun c => c ≠ '\\') = digits :=
      List.takeWhile_eq_self_iff.2 fun c hc => by
        simpa using ne_of_mem_of_not_mem (a := c) (s := cs) (by rw [← parts]; simp [hc]) straight
    rw [writtenPort?, whole] at written
    -- the colon before the port is the last one, for there is none in the port
    obtain ⟨plain, eq⟩ := port?_eq_some written
    rw [← parts, lastPort?_append plain, eq]

/-- What stands behind the last `@` is the end of a text. -/
lemma splitUser_snd_subset (cs : List Char) : (splitUser cs).2 ⊆ cs := fun c hc => by
  rw [splitUser, List.mem_reverse] at hc
  exact List.mem_reverse.1 (List.takeWhile_subset _ hc)

/-- The port of an authority stands behind the last colon, if the host has colons in brackets only. -/
theorem lastPort?_of_ofText? {inNetwork : Bool} {cs : List Char} {host : Host} {port : Option Nat}
    (read : ofText? inNetwork cs = some ⟨some host, port⟩)
    (bracketed : ':' ∈ (splitPort false (splitUser cs).2).1 → (splitPort false (splitUser cs).2).1.head? = some '[')
    (straight : '\\' ∉ cs) : lastPort? (splitUser cs).2 = port := by
  simp only [ofText?] at read
  split at read
  · split at read <;> cases read
  · obtain ⟨host', named, read⟩ := Option.bind_eq_some_iff.1 read
    obtain ⟨port', written, read⟩ := Option.bind_eq_some_iff.1 read
    obtain ⟨rfl, rfl⟩ : host' = host ∧ port' = port := by simpa using read
    exact lastPort?_of_split named bracketed written fun inside => straight (splitUser_snd_subset cs inside)

end Authority

end Url

end FocusJournal
