import FocusJournal.Journal.ServerName
import Mathlib.Data.List.TakeWhile
import Mathlib.Tactic.Lemma

/-!
# Server names that are accepted

The names of servers as they are meant: a host, and a port behind a colon where one is given. `Named` says so without
looking for brackets or colons, and `Port` says which numerals are ports. Such names are accepted, and one kind more,
since a plus sign is read before the digits of a port: `accepted_iff`.

A name falls into its host and its port in one way only (`split_host`, `exists_host`), so no name is of both kinds.
-/

namespace FocusJournal.ServerName

/-- A name without colons that does not begin with a bracket, or an address in brackets. -/
inductive Host : List Char → Prop where
  | name {cs} :
    cs ≠ [] →
    cs.head? ≠ some '[' →
    ':' ∉ cs →
    Host cs
  | address {cs} :
    cs ≠ [] →
    ']' ∉ cs →
    Host ('[' :: (cs ++ [']']))

/-- A numeral of decimal digits whose value is from 1 to 65535, so that there is a digit. -/
structure Port (cs : List Char) : Prop where
  digits : ∀ c ∈ cs, c.isDigit = true
  positive : 1 ≤ Nat.ofDigitChars 10 cs 0
  small : Nat.ofDigitChars 10 cs 0 ≤ 65535

/-- A host, or a host with a port behind a colon. -/
inductive Named (IsPort : List Char → Prop) : List Char → Prop where
  | portless {host} :
    Host host →
    Named IsPort host
  | ported {host port} :
    Host host →
    IsPort port →
    Named IsPort (host ++ ':' :: port)

/-- A host with a port behind a colon, and a plus sign before the port. -/
def Signed (cs : List Char) : Prop := ∃ host port, Host host ∧ Port port ∧ cs = host ++ ':' :: '+' :: port

/-! ## Ports -/

/-- A port has a digit. -/
lemma Port.ne_nil {cs : List Char} (po : Port cs) : cs ≠ [] := by
  rintro rfl
  exact absurd po.positive (by decide)

/-- The ports are the numerals that are read as a number in range. -/
lemma exists_natural?_iff {cs : List Char} : (∃ n, Text.natural? cs = some n ∧ 1 ≤ n ∧ n ≤ 65535) ↔ Port cs := by
  constructor
  · rintro ⟨n, read, positive, small⟩
    obtain ⟨_, digits, rfl⟩ := Text.natural?_eq_some.1 read
    exact ⟨digits, positive, small⟩
  · intro po
    exact ⟨_, Text.natural?_eq_some.2 ⟨po.ne_nil, po.digits, rfl⟩, po.positive, po.small⟩

/-- What is read as a port is one, or it is one behind a plus sign. -/
lemma isPort_iff {cs : List Char} : isPort cs = true ↔ Port cs ∨ ∃ port, cs = '+' :: port ∧ Port port := by
  have unsigned : isPort cs = true ↔ ∃ n, Text.unsigned? cs = some n ∧ 1 ≤ n ∧ n ≤ 65535 := by
    rw [isPort]
    cases Text.unsigned? cs <;> simp
  rw [unsigned, Text.unsigned?.eq_def]
  split
  · next cs =>
    have sign : ¬ Port ('+' :: cs) := fun po => absurd (po.digits '+' (.head _)) (by decide)
    simp [exists_natural?_iff, sign]
  · next plain =>
    rw [exists_natural?_iff, or_iff_left]
    rintro ⟨port, rfl, _⟩
    exact plain port rfl

/-- There is no colon in a port. -/
lemma Port.colon_not_mem {cs : List Char} (po : Port cs) : ':' ∉ cs := fun h => absurd (po.digits _ h) (by decide)

/-- Nor is there one in anything that is read as a port. -/
lemma colon_not_mem_of_isPort {cs : List Char} (h : isPort cs = true) : ':' ∉ cs := by
  rcases isPort_iff.1 h with po | ⟨port, rfl, po⟩
  · exact po.colon_not_mem
  · simpa using po.colon_not_mem

/-! ## Hosts -/

/-- What stands behind a host. -/
def behind (port : Option (List Char)) : List Char := port.elim [] (':' :: ·)

/-- Characters are split at the first of a kind. -/
lemma splitFirst?_eq_some {c : Char} {cs before after : List Char} :
    splitFirst? c cs = some (before, after) ↔ cs = before ++ c :: after ∧ c ∉ before := by
  constructor
  · intro h
    have parts := List.takeWhile_append_dropWhile (p := (· != c)) (l := cs)
    have first := List.head?_dropWhile_not (· != c) cs
    rw [splitFirst?] at h
    split at h
    · cases h
    · next d rest found =>
      obtain ⟨rfl, rfl⟩ : cs.takeWhile (· != c) = before ∧ rest = after := by simpa using h
      obtain rfl : d = c := by simpa [found] using first
      rw [found] at parts
      exact ⟨parts.symm, fun inside => by simpa using List.mem_takeWhile_imp inside⟩
  · rintro ⟨rfl, absent⟩
    have passed : ∀ d ∈ before, (d != c) = true := fun d hd => by simpa using ne_of_mem_of_not_mem hd absent
    rw [splitFirst?, List.dropWhile_append_of_pos passed, List.takeWhile_append_of_pos passed]
    simp

/-- Characters are not split where none is of the kind. -/
lemma splitFirst?_eq_none {c : Char} {cs : List Char} : splitFirst? c cs = none ↔ c ∉ cs := by
  constructor
  · intro h inside
    obtain ⟨before, after, rfl, absent⟩ := List.eq_append_cons_of_mem inside
    rw [splitFirst?_eq_some.2 ⟨rfl, absent⟩] at h
    cases h
  · intro absent
    refine Option.eq_none_iff_forall_ne_some.2 fun (before, after) h => absent ?_
    rw [(splitFirst?_eq_some.1 h).1]
    simp

/-- A host is found where it stands, and what is behind it is the port. -/
lemma split_host {host : List Char} {port : Option (List Char)} (ho : Host host) (hp : ∀ p ∈ port, ':' ∉ p) :
    ∃ inner, inner ≠ [] ∧ split (host ++ behind port) = .ok (inner, port) := by
  cases ho with
  | name nonempty opens colon =>
    refine ⟨host, nonempty, ?_⟩
    have plain : ∀ cs, host ++ behind port ≠ '[' :: cs := by
      obtain ⟨c, rest, rfl⟩ := List.exists_cons_of_ne_nil nonempty
      simpa using opens
    rw [split.eq_2 _ fun cs => plain cs]
    cases port with
    | none => simp [behind, splitFirst?_eq_none.2 colon]
    | some p => simp [behind, splitFirst?_eq_some.2 ⟨rfl, colon⟩, hp p rfl]
  | @address cs nonempty closed =>
    refine ⟨cs, nonempty, ?_⟩
    have found : splitFirst? ']' (cs ++ ']' :: behind port) = some (cs, behind port) :=
      splitFirst?_eq_some.2 ⟨rfl, closed⟩
    have shape : '[' :: (cs ++ [']']) ++ behind port = '[' :: (cs ++ ']' :: behind port) := by simp
    rw [shape, split, found]
    cases port <;> rfl

/-- What is found to be the host is one, unless it is empty. -/
lemma exists_host {cs inner : List Char} {port : Option (List Char)} (h : split cs = .ok (inner, port))
    (nonempty : inner ≠ []) : ∃ host, Host host ∧ cs = host ++ behind port := by
  rw [split.eq_def] at h
  split at h
  · next cs =>
    refine ⟨'[' :: (inner ++ [']']), ?_⟩
    split at h
    · cases h
    · next found =>
      cases h
      obtain ⟨rfl, closed⟩ := splitFirst?_eq_some.1 found
      exact ⟨.address nonempty closed, by simp [behind]⟩
    · next found =>
      cases h
      obtain ⟨rfl, closed⟩ := splitFirst?_eq_some.1 found
      exact ⟨.address nonempty closed, by simp [behind]⟩
    · cases h
  · next plain =>
    have opens {rest} (eq : cs = inner ++ rest) : inner.head? ≠ some '[' := by
      intro first
      obtain ⟨cs', rfl⟩ := List.head?_eq_some_iff.1 first
      exact plain _ eq
    refine ⟨inner, ?_⟩
    split at h
    · next found =>
      cases h
      exact ⟨.name nonempty (opens (List.append_nil _).symm) (splitFirst?_eq_none.1 found), by simp [behind]⟩
    · next found =>
      split at h
      · cases h
      · cases h
        obtain ⟨rfl, colon⟩ := splitFirst?_eq_some.1 found
        exact ⟨.name nonempty (opens rfl) colon, rfl⟩

/-! ## Names -/

/-- A name is a host with what stands behind it, whether that is a port or nothing. -/
lemma named_iff {IsPort : List Char → Prop} {cs : List Char} :
    Named IsPort cs ↔ ∃ host port, Host host ∧ (∀ p ∈ port, IsPort p) ∧ cs = host ++ behind port := by
  constructor
  · rintro (ho | ⟨ho, hp⟩)
    · exact ⟨_, none, ho, nofun, by simp [behind]⟩
    · exact ⟨_, some _, ho, by simpa using hp, rfl⟩
  · rintro ⟨host, port, ho, hp, rfl⟩
    cases port with
    | none => simpa [behind] using Named.portless ho
    | some p => exact .ported ho (hp p rfl)

/-- A name falls into a host and a port in one way. -/
lemma port_eq_of_append_eq {host host' : List Char} {port port' : Option (List Char)} (ho : Host host) (ho' : Host host')
    (hp : ∀ p ∈ port, ':' ∉ p) (hp' : ∀ p ∈ port', ':' ∉ p) (h : host ++ behind port = host' ++ behind port') :
    port = port' := by
  obtain ⟨inner, _, found⟩ := split_host ho hp
  obtain ⟨inner', _, found'⟩ := split_host ho' hp'
  rw [h, found'] at found
  cases found
  rfl

/-- A name is accepted if it has a host and its port, where it has one, is read as one. -/
lemma fault?_eq_none {name : String} :
    fault? name = none ↔ Named (fun port => isPort port = true) (Text.trimChars name.toList) := by
  rw [named_iff, fault?]
  constructor
  · intro h
    split at h
    · cases h
    · next inner port found =>
      split at h
      · cases h
      · next nonempty =>
        obtain ⟨host, ho, eq⟩ := exists_host found (by simpa using nonempty)
        refine ⟨host, port, ho, ?_, eq⟩
        simpa [Option.all_eq_true] using h
  · rintro ⟨host, port, ho, hp, eq⟩
    obtain ⟨inner, nonempty, found⟩ := split_host ho fun p h => colon_not_mem_of_isPort (hp p h)
    have read : port.all isPort = true := by simpa [Option.all_eq_true] using hp
    simp [eq, found, nonempty, read]

/-- A name whose port has a sign is none as it is meant. -/
lemma Signed.not_named {cs : List Char} (si : Signed cs) : ¬ Named Port cs := by
  intro na
  obtain ⟨host', signed, ho', po', eq'⟩ := si
  obtain ⟨host, port, ho, hp, eq⟩ := named_iff.1 na
  have same : port = some ('+' :: signed) :=
    port_eq_of_append_eq ho ho' (fun p h => (hp p h).colon_not_mem) (by simpa using po'.colon_not_mem)
      (eq.symm.trans eq')
  exact absurd ((hp _ same).digits '+' (.head _)) (by decide)

/-- A name with what is read as a port is meant as a name, or it has a sign before its port. -/
lemma named_isPort_iff {cs : List Char} : Named (fun port => isPort port = true) cs ↔ Named Port cs ∨ Signed cs := by
  constructor
  · rintro (ho | ⟨ho, hp⟩)
    · exact .inl (.portless ho)
    · rcases isPort_iff.1 hp with po | ⟨port, rfl, po⟩
      · exact .inl (.ported ho po)
      · exact .inr ⟨_, port, ho, po, rfl⟩
  · rintro ((ho | ⟨ho, po⟩) | ⟨host, port, ho, po, rfl⟩)
    · exact .portless ho
    · exact .ported ho (isPort_iff.2 (.inl po))
    · exact .ported ho (isPort_iff.2 (.inr ⟨port, rfl, po⟩))

/-- Accepted are the names as they are meant and those with a plus sign before the port, and no name is both. -/
theorem accepted_iff (name : String) :
    (fault? name = none ↔ Named Port (Text.trimChars name.toList) ∨ Signed (Text.trimChars name.toList)) ∧
      ¬ (Named Port (Text.trimChars name.toList) ∧ Signed (Text.trimChars name.toList)) :=
  ⟨fault?_eq_none.trans named_isPort_iff, fun both => both.2.not_named both.1⟩

/-- A port with a sign is accepted. -/
theorem not_always_named : ¬ ∀ name, fault? name = none ↔ Named Port (Text.trimChars name.toList) := by
  intro named
  have signed : Signed (Text.trimChars "srv:+80".toList) :=
    ⟨"srv".toList, ['8', '0'], .name (by decide) (by decide) (by decide), ⟨by simp, by decide, by decide⟩, by decide⟩
  exact signed.not_named ((named "srv:+80").1 (by decide))

end FocusJournal.ServerName
