import FocusJournal.Message.Credentials
import Mathlib.Data.List.Basic
import Mathlib.Data.List.Induction
import Mathlib.Tactic.Lemma

/-!
# Credentials in a payload

Which JSON values are credentials: objects with the four fields and no other key, or lists of the four in order, all of
them strings (`Credentials.Form`). `Credentials.record_ofJson_iff` says that these are what is read, and
`Credentials.ofJson_verdict` what becomes of every value: it gives the credentials unchanged, or it is refused for the
first blank field, or for its form.
-/

namespace FocusJournal

namespace Credentials

/-- The fields by their names on the wire, in order. -/
def fields (c : Credentials) : List (String × String) :=
  [("serverName", c.server), ("username", c.username), ("password", c.password), ("deviceName", c.device)]

/-- The names of the fields on the wire, in order. -/
def names : List String := ["serverName", "username", "password", "deviceName"]

/-- A value has the form of credentials. Of several members with one key, which no value that was read has, the last
counts. -/
inductive Form : Json → Credentials → Prop where
  | object {members c} :
    (∀ key, key ∈ members.map Prod.fst ↔ key ∈ names) →
    (∀ m ∈ members, ∃ s, m.2 = .string s) →
    (∀ f ∈ c.fields, members.reverse.lookup f.1 = some (.string f.2)) →
    Form (.object members) c
  | array {c} :
    Form (.array (c.fields.map fun f => .string f.2)) c

/-- Credentials with the text of a field. -/
def put (c : Credentials) (name s : String) : Credentials :=
  if name = "serverName" then { c with server := s }
  else if name = "username" then { c with username := s }
  else if name = "password" then { c with password := s }
  else if name = "deviceName" then { c with device := s }
  else c

/-- Credentials with the texts of fields, put in one after the other. -/
def fill (c : Credentials) (texts : List (String × String)) : Credentials := texts.foldl (fun c f => c.put f.1 f.2) c

/-- A text as a member of an object. -/
def member (f : String × String) : String × Json := (f.1, .string f.2)

variable {c c' : Credentials}

/-- The fields have their names on the wire, in order. -/
lemma map_fst_fields : c.fields.map Prod.fst = names := rfl

/-- Credentials are what their fields are. -/
lemma eq_of_fields (h : c.fields = c'.fields) : c = c' := by
  obtain ⟨server, username, password, device⟩ := c
  cases c'
  simpa [fields] using h

/-- A text that is put into a field stays out of the others. -/
lemma fields_put (name s : String) :
    (c.put name s).fields = c.fields.map fun f => (f.1, if f.1 = name then s else f.2) := by
  unfold put
  split
  · next h => subst h; rfl
  split
  · next h => subst h; rfl
  split
  · next h => subst h; rfl
  split
  · next h => subst h; rfl
  · next h₁ h₂ h₃ h₄ => simp [fields, Ne.symm h₁, Ne.symm h₂, Ne.symm h₃, Ne.symm h₄]

/-- The last text is put in after the others. -/
@[simp] lemma fill_concat (texts : List (String × String)) (f : String × String) :
    c.fill (texts ++ [f]) = (c.fill texts).put f.1 f.2 := by
  rw [fill, List.foldl_append]
  rfl

/-- The last text that is put into a field stays there. -/
lemma fields_fill (texts : List (String × String)) :
    (c.fill texts).fields = c.fields.map fun f => (f.1, (texts.reverse.lookup f.1).getD f.2) := by
  -- From the last text back, since it is the one that stays.
  induction texts using List.reverseRecOn with
  | nil => simp [fill]
  | append_singleton texts f ih =>
    obtain ⟨name, s⟩ := f
    rw [fill_concat, fields_put, ih, List.map_map, List.reverse_append]
    refine List.map_congr_left fun g _ => ?_
    by_cases h : g.1 = name
    · simp [h]
    · simp [h, List.lookup_cons, beq_eq_false_iff_ne.2 h]

/-! ## Reading -/

/-- Only strings are read as texts. -/
lemma string_eq_ok {j : Json} {s : String} : Format.string.ofJson j = .ok s ↔ j = .string s := by
  cases j <;> simp [Format.string]

/-- Each name is that of a field, which takes strings and puts them into the credentials. -/
lemma field?_of_mem {name : String} (h : name ∈ names) :
    ∃ f, record.field? name = some f ∧ f.name = name ∧
      ∀ j, f.ofJson j = (Format.string.ofJson j).map fun s c => c.put name s := by
  simp only [names, List.mem_cons, List.not_mem_nil, or_false] at h
  rcases h with rfl | rfl | rfl | rfl
  · exact ⟨_, rfl, rfl, fun _ => rfl⟩
  · exact ⟨_, rfl, rfl, fun _ => rfl⟩
  · exact ⟨_, rfl, rfl, fun _ => rfl⟩
  · exact ⟨_, rfl, rfl, fun _ => rfl⟩

/-- No other name is that of a field. -/
lemma field?_of_not_mem {name : String} (h : name ∉ names) : record.field? name = none := by
  refine List.find?_eq_none.2 fun f hf same => h ?_
  rw [← beq_iff_eq.1 same]
  exact List.mem_map_of_mem (f := Field.name) hf

/-- A member is taken if it is a string under the name of a field. -/
lemma putMember_eq_ok {given given' : List String} {m : String × Json} :
    record.putMember (c, given) m = .ok (c', given') ↔
      m.1 ∈ names ∧ ∃ s, m.2 = .string s ∧ c' = c.put m.1 s ∧ given' = m.1 :: given := by
  rw [Record.putMember]
  by_cases hn : m.1 ∈ names
  · obtain ⟨f, hf, hname, hj⟩ := field?_of_mem hn
    simp only [hf, hname, hj, hn, true_and, ← string_eq_ok]
    cases Format.string.ofJson m.2 with
    | error e => simp [Except.map]
    | ok s => simp [Except.map, eq_comm]
  · have closed : record.closed = true := rfl
    simp [field?_of_not_mem hn, hn, closed]

/-- Members are read one after the other if they are texts of fields. -/
lemma foldlM_eq_ok {members : List (String × Json)} {given given' : List String} :
    members.foldlM record.putMember (c, given) = .ok (c', given') ↔
      ∃ texts : List (String × String), members = texts.map member ∧ (∀ f ∈ texts, f.1 ∈ names) ∧
        c' = c.fill texts ∧ given' = (texts.map Prod.fst).reverse ++ given := by
  induction members generalizing c given with
  | nil =>
    constructor
    · rintro ⟨⟩
      exact ⟨[], rfl, nofun, rfl, rfl⟩
    · rintro ⟨texts, ht, _, rfl, rfl⟩
      rw [List.map_eq_nil_iff.1 ht.symm]
      rfl
  | cons m members ih =>
    rw [List.foldlM_cons]
    constructor
    · intro h
      cases hm : record.putMember (c, given) m with
      | error e => rw [hm] at h; cases h
      | ok state =>
        obtain ⟨hn, s, hs, hc, hg⟩ := putMember_eq_ok.1 hm
        rw [hm] at h
        obtain ⟨texts, rfl, hall, rfl, rfl⟩ := ih.1 h
        refine ⟨(m.1, s) :: texts, ?_, List.forall_mem_cons.2 ⟨hn, hall⟩, ?_, ?_⟩
        · rw [List.map_cons, member, ← hs]
        · rw [hc]; rfl
        · simp [hg]
    · rintro ⟨texts, ht, hall, rfl, rfl⟩
      obtain ⟨f, texts, rfl⟩ : ∃ f rest, texts = f :: rest := by
        cases texts with
        | nil => cases ht
        | cons f rest => exact ⟨f, rest, rfl⟩
      obtain ⟨rfl, rfl⟩ := List.cons.inj ht
      obtain ⟨hn, hall⟩ := List.forall_mem_cons.1 hall
      have here : record.putMember (c, given) (member f) = .ok (c.put f.1 f.2, f.1 :: given) :=
        putMember_eq_ok.2 ⟨hn, f.2, rfl, rfl, rfl⟩
      rw [here]
      exact ih.2 ⟨texts, rfl, hall, rfl, by simp⟩

/-- No field is lacking once all four are given. -/
lemma lacking_eq_none {given : List String} : record.lacking given = none ↔ ∀ name ∈ names, name ∈ given := by
  simp [Record.lacking, record, Field.needed, Field.of, names]

/-- Filled from nothing, credentials have the last text of each field. -/
lemma eq_fill_iff {texts : List (String × String)} (complete : ∀ name ∈ names, name ∈ texts.map Prod.fst) :
    c = record.blank.fill texts ↔ ∀ f ∈ c.fields, texts.reverse.lookup f.1 = some f.2 := by
  have filled : (record.blank.fill texts).fields = names.map fun name => (name, (texts.reverse.lookup name).getD "") :=
    fields_fill texts
  constructor
  · rintro rfl f hf
    rw [filled] at hf
    obtain ⟨name, hn, rfl⟩ := List.mem_map.1 hf
    obtain ⟨g, hg, hgn⟩ := List.mem_map.1 (complete name hn)
    cases hl : texts.reverse.lookup name with
    | some s => rfl
    | none =>
      have absent := List.lookup_eq_none_iff.1 hl g (List.mem_reverse.2 hg)
      simp [hgn] at absent
  · intro values
    apply eq_of_fields
    rw [filled, ← map_fst_fields (c := c), List.map_map]
    refine (List.map_id _).symm.trans (List.map_congr_left fun f hf => ?_)
    rw [Function.comp_apply, values f hf]
    rfl

/-- What is found among members is the string of what is found among the texts. -/
lemma lookup_member (texts : List (String × String)) (name : String) :
    (texts.map member).lookup name = (texts.lookup name).map .string := by
  induction texts with
  | nil => rfl
  | cons f texts ih =>
    obtain ⟨key, s⟩ := f
    rw [List.map_cons, member, List.lookup_cons, List.lookup_cons]
    cases name == key
    · exact ih
    · rfl

/-- Texts are members under the names of their fields. -/
lemma map_fst_member (texts : List (String × String)) : (texts.map member).map Prod.fst = texts.map Prod.fst := by
  rw [List.map_map]
  rfl

/-- Members that are all strings are texts. -/
lemma exists_texts {members : List (String × Json)} (texts : ∀ m ∈ members, ∃ s, m.2 = .string s) :
    ∃ l : List (String × String), members = l.map member := by
  induction members with
  | nil => exact ⟨[], rfl⟩
  | cons m members ih =>
    obtain ⟨⟨s, hs⟩, rest⟩ := List.forall_mem_cons.1 texts
    obtain ⟨l, rfl⟩ := ih rest
    exact ⟨(m.1, s) :: l, by rw [List.map_cons, member, ← hs]⟩

/-- An object is credentials if its members are texts of the four fields, and of no others. -/
lemma ofMembers_eq_ok {members : List (String × Json)} :
    record.ofMembers members = .ok c ↔ Form (.object members) c := by
  have shape : record.ofMembers members = .ok c ↔
      ∃ given, members.foldlM record.putMember (record.blank, []) = .ok (c, given) ∧ ∀ name ∈ names, name ∈ given := by
    simp only [← lacking_eq_none]
    rw [Record.ofMembers]
    cases members.foldlM record.putMember (record.blank, []) with
    | error e => simp [bind, Except.bind]
    | ok state =>
      obtain ⟨c', given⟩ := state
      cases hl : record.lacking given <;> simp [bind, Except.bind, hl]
  rw [shape]
  constructor
  · rintro ⟨given, hf, complete⟩
    obtain ⟨texts, rfl, known, hc, rfl⟩ := foldlM_eq_ok.1 hf
    have complete : ∀ name ∈ names, name ∈ texts.map Prod.fst := by simpa using complete
    refine .object ?keys ?texts ?values
    case keys =>
      intro key
      rw [map_fst_member]
      exact ⟨fun hk => List.forall_mem_map.2 known key hk, complete key⟩
    case texts =>
      exact List.forall_mem_map.2 fun f _ => ⟨f.2, rfl⟩
    case values =>
      intro f hf
      rw [← List.map_reverse, lookup_member, (eq_fill_iff complete).1 hc f hf]
      rfl
  · intro form
    cases form with
    | object keys texts values =>
      obtain ⟨l, rfl⟩ := exists_texts texts
      simp only [map_fst_member] at keys
      have complete : ∀ name ∈ names, name ∈ l.map Prod.fst := fun name => (keys name).2
      refine ⟨_, foldlM_eq_ok.2 ⟨l, rfl, ?known, ?filled, rfl⟩, by simpa using complete⟩
      case known => exact fun f hf => (keys f.1).1 (List.mem_map_of_mem hf)
      case filled =>
        refine (eq_fill_iff complete).2 fun f hf => ?_
        have value := values f hf
        rw [← List.map_reverse, lookup_member] at value
        obtain ⟨s, hs, same⟩ := Option.map_eq_some_iff.1 value
        rw [hs, Json.string.inj same]

/-- The items of a list go into needed fields one by one, strings into fields of text. -/
lemma putItems_needed {length taken : Nat} {name : String} {put : String → Credentials → Credentials}
    {rest : List (Field Credentials)} {items : List Json} :
    record.putItems length taken c (.needed name .string put :: rest) items = .ok c' ↔
      ∃ s later, items = .string s :: later ∧ record.putItems length (taken + 1) (put s c) rest later = .ok c' := by
  cases items with
  | nil => simp [Record.putItems, Field.needed, Field.of]
  | cons item later =>
    cases item <;> simp [Record.putItems, Field.needed, Field.of, Format.string, Except.map]

/-- Where there are no more fields, no more items may come. -/
lemma putItems_nil {length taken : Nat} {items : List Json} :
    record.putItems length taken c [] items = .ok c' ↔ items = [] ∧ c = c' := by
  cases items <;> simp [Record.putItems]

/-- A list is credentials if its items are the texts of the four fields in order. -/
lemma ofItems_eq_ok {items : List Json} : record.ofItems items = .ok c ↔ Form (.array items) c := by
  have read : record.ofItems items = .ok c ↔ items = c.fields.map fun f => .string f.2 := by
    change record.putItems _ 0 _
      (.needed _ .string _ :: .needed _ .string _ :: .needed _ .string _ :: .needed _ .string _ :: []) items = _ ↔ _
    simp only [putItems_needed, putItems_nil]
    constructor
    · rintro ⟨server, _, rfl, username, _, rfl, password, _, rfl, device, _, rfl, rfl, rfl⟩
      rfl
    · rintro rfl
      exact ⟨_, _, rfl, _, _, rfl, _, _, rfl, _, _, rfl, rfl, rfl⟩
  rw [read]
  constructor
  · rintro rfl
    exact .array
  · rintro ⟨⟩
    rfl

/-- Credentials are read from the values that have the form of credentials, and from no others. -/
lemma record_ofJson_iff {payload : Json} : record.ofJson payload = .ok c ↔ Form payload c := by
  cases payload with
  | object members => exact ofMembers_eq_ok
  | array items => exact ofItems_eq_ok
  | _ => exact ⟨nofun, nofun⟩

/-- The blank field that is named is the first one in order. -/
lemma blankField?_eq (c : Credentials) :
    c.blankField? = (c.fields.find? fun f => Text.isBlankString f.2).map Prod.fst := by
  simp only [blankField?, fields, List.find?_cons, List.find?_nil]
  cases Text.isBlankString c.server <;> cases Text.isBlankString c.username <;> cases Text.isBlankString c.password <;>
    cases Text.isBlankString c.device <;> rfl

/-- What becomes of credentials that were read is decided by the blank fields. -/
lemma ofJson_of_record {payload : Json} (hr : record.ofJson payload = .ok c) :
    ofJson payload = match c.fields.find? fun f => Text.isBlankString f.2 with
      | some f => .error (.blankField f.1)
      | none => .ok c := by
  simp only [ofJson, hr, blankField?_eq]
  cases c.fields.find? _ <;> rfl

/-- Credentials are taken if none of their fields is blank. -/
lemma ofJson_eq_ok {payload : Json} :
    ofJson payload = .ok c ↔ Form payload c ∧ ∀ f ∈ c.fields, Text.isBlankString f.2 = false := by
  rw [← record_ofJson_iff]
  constructor
  · intro h
    cases hr : record.ofJson payload with
    | error m =>
      rw [ofJson, hr] at h
      cases h
    | ok c' =>
      rw [ofJson_of_record hr] at h
      split at h
      · cases h
      · next hb =>
        cases h
        exact ⟨rfl, fun f hf => eq_false_of_ne_true (List.find?_eq_none.1 hb f hf)⟩
  · rintro ⟨hr, nonblank⟩
    have hb : (c.fields.find? fun f => Text.isBlankString f.2) = none :=
      List.find?_eq_none.2 fun f hf => ne_true_of_eq_false (nonblank f hf)
    rw [ofJson_of_record hr, hb]

/-- A value is taken for a login if and only if it is an object with the four fields and no other key, or a list of the
four in order, all of them strings that are not blank; the credentials are these strings, unchanged. A value of this
form is refused for its first blank field, every other value for its form. -/
theorem ofJson_verdict (payload : Json) :
    (∀ c, ofJson payload = .ok c ↔
      Form payload c ∧ ∀ f ∈ c.fields, ∃ char ∈ f.2.toList, Text.isBlank char = false) ∧
    (∀ c f, Form payload c → c.fields.find? (fun f => Text.isBlankString f.2) = some f →
      ∃ reason, ofJson payload = .error reason ∧ reason.complaint = ⟨"missing_field", f.1 ++ " is required"⟩) ∧
    ((∀ c, ¬ Form payload c) →
      ∃ reason, ofJson payload = .error reason ∧ reason.complaint.code = "invalid_params") := by
  simp only [← Text.isBlankString_eq_false]
  refine ⟨fun c => ofJson_eq_ok, ?blank, ?formless⟩
  case blank =>
    intro c f form hb
    have read := ofJson_of_record (record_ofJson_iff.2 form)
    rw [hb] at read
    exact ⟨_, read, rfl⟩
  case formless =>
    intro formless
    cases hr : record.ofJson payload with
    | error m => exact ⟨.malformedCredentials m, by rw [ofJson, hr], rfl⟩
    | ok c => exact absurd (record_ofJson_iff.1 hr) (formless c)

/-- Of two blank strings in a list the first is complained of, whatever kind of blank it is made of; a key that is not
known is a fault of form, though others are missing. -/
theorem ofJson_verdict_blankUsername :
    (∃ reason, ofJson (.array [.string "srv", .string "\u00a0", .string "", .string "dev"]) = .error reason ∧
      reason.complaint = ⟨"missing_field", "username is required"⟩) ∧
    ∃ reason, ofJson (.object [("serverName", .string ""), ("token", .string "t")]) = .error reason ∧
      reason.complaint.code = "invalid_params" := by
  have formless c : ¬ Form (.object [("serverName", .string ""), ("token", .string "t")]) c := by
    rintro ⟨keys, _, _⟩
    exact absurd ((keys "token").1 (by simp)) (by decide)
  have form := Form.array (c := ⟨"srv", "\u00a0", "", "dev"⟩)
  exact ⟨(ofJson_verdict _).2.1 _ ("username", "\u00a0") form rfl, (ofJson_verdict _).2.2 formless⟩

end Credentials

end FocusJournal
