import FocusJournal.Message.Response
import FocusJournal.Proofs.Json.Records

/-!
# Responses on the wire

A response is written as the object of those of its fields that are there, and is read back from it field by field:
`Response.ofBytes_text`. Only a null for its data would be lost, since null is read as no data.
-/

namespace FocusJournal

open Json (spell depth plain Reads)
open Record (Member)

namespace Complaint

/-- The fields of a complaint, with what each puts into it. -/
def members (c : Complaint) : List (Member Complaint) := [
  ⟨"code", .string c.code, fun d => { d with code := c.code }⟩,
  ⟨"message", .string c.message, fun d => { d with message := c.message }⟩]

/-- A complaint is written as the object of its members. -/
lemma toJson_eq (c : Complaint) : c.toJson = .object (c.members.map Member.written) := rfl

/-- A complaint is read back from its characters. -/
lemma reads_toJson (c : Complaint) : Reads Response.complaintRecord.format.reader (spell c.toJson) 1 c := by
  have once : (c.members.map Member.key).Nodup := show ["code", "message"].Nodup by decide
  refine Record.reads_members ?_ once rfl
  intro m hm
  simp only [members, List.mem_cons, List.not_mem_nil, or_false] at hm
  rcases hm with rfl | rfl
  · exact ⟨rfl, _, rfl, Field.reads_of (Format.reads_string _)⟩
  · exact ⟨rfl, _, rfl, Field.reads_of (Format.reads_string _)⟩

end Complaint

namespace Response

/-- Data that a response can carry over the wire. -/
structure Carries (j : Json) : Prop where
  /-- Null would be read as no data. -/
  present : j ≠ .null
  numbers : plain j = true
  keys : j.ordered = true
  /-- The response around it is one level deeper. -/
  shallow : depth j < Json.depthLimit

/-- The fields that are there, with what each puts into a response. -/
def members (r : Response) : List (Member Response) :=
  ⟨"ok", .bool r.ok, fun s => { s with ok := r.ok }⟩ ::
    ((r.id.toList.map fun id => ⟨"id", .string id, fun s => { s with id := some id }⟩)
    ++ (if r.pending then [⟨"pending", .bool true, fun s => { s with pending := true }⟩] else [])
    ++ (r.data.toList.map fun j => ⟨"data", j, fun s => { s with data := some j }⟩)
    ++ (r.error.toList.map fun c => ⟨"error", c.toJson, fun s => { s with error := some c }⟩))

/-- A response is written as the object of those fields that are there. -/
lemma toJson_eq (r : Response) : r.toJson = .object (r.members.map Member.written) := by
  obtain ⟨ok, id, pending, data, error⟩ := r
  cases id <;> cases pending <;> cases data <;> cases error <;> rfl

/-- Every member is read as it was written. -/
lemma of_mem_members {r : Response} (h : ∀ j ∈ r.data, Carries j) {m : Member Response} (hm : m ∈ r.members) :
    record.Takes m ∧ depth m.value < Json.depthLimit := by
  simp only [members, List.mem_cons, List.mem_append, List.mem_map, Option.mem_toList] at hm
  -- The data comes from elsewhere, and all that is known of it is that it can be carried.
  rcases hm with rfl | ((⟨id, _, rfl⟩ | hm) | ⟨j, hj, rfl⟩) | ⟨c, _, rfl⟩
  · exact ⟨⟨rfl, _, rfl, Field.reads_of (Format.reads_bool _)⟩, Nat.succ_pos _⟩
  · exact ⟨⟨rfl, _, rfl, Field.reads_of (Format.reads_optional (Format.reads_string _) rfl (by simp))⟩, Nat.succ_pos _⟩
  · split at hm
    · rw [List.mem_singleton.1 hm]
      exact ⟨⟨rfl, _, rfl, Field.reads_of (Format.reads_bool _)⟩, Nat.succ_pos _⟩
    · cases hm
  · have carries := h j hj
    have read := Format.reads_json carries.numbers carries.keys
    exact ⟨⟨carries.numbers, _, rfl, Field.reads_of (Format.reads_optional read carries.numbers carries.present)⟩,
      carries.shallow⟩
  · exact ⟨⟨rfl, _, rfl, Field.reads_of (Format.reads_optional c.reads_toJson rfl (by simp [Complaint.toJson]))⟩,
      (by decide : 1 < Json.depthLimit)⟩

/-- No key comes twice in a response. -/
lemma nodup_members (r : Response) : (r.members.map Member.key).Nodup := by
  obtain ⟨ok, id, pending, data, error⟩ := r
  cases id <;> cases pending <;> cases data <;> cases error <;> simp [members]

/-- A response has the one field that it needs. -/
lemma lacking_members (r : Response) : record.lacking (r.members.map Member.key).reverse = none := by
  obtain ⟨ok, id, pending, data, error⟩ := r
  cases id <;> cases pending <;> cases data <;> cases error <;> rfl

/-- The members of a response give it back. -/
lemma fill_members (r : Response) : Member.fill record.blank r.members = r := by
  obtain ⟨ok, id, pending, data, error⟩ := r
  cases id <;> cases pending <;> cases data <;> cases error <;> rfl

/-- A response that carries its data is not too deep. -/
lemma depth_toJson {r : Response} (h : ∀ j ∈ r.data, Carries j) : depth r.toJson ≤ Json.depthLimit := by
  rw [toJson_eq, depth]
  refine Nat.succ_le_of_lt (Json.depthMembers_lt (by decide) fun m hm => ?_)
  obtain ⟨m', hm', rfl⟩ := List.mem_map.1 hm
  exact (of_mem_members h hm').2

/-- A response that carries its data has no floats. -/
lemma plain_toJson {r : Response} (h : ∀ j ∈ r.data, Carries j) : plain r.toJson = true := by
  rw [toJson_eq, plain]
  refine Json.plainMembers_of_forall fun m hm => ?_
  obtain ⟨m', hm', rfl⟩ := List.mem_map.1 hm
  exact (of_mem_members h hm').1.1

/-- A response is read back from its written form. -/
theorem ofBytes_text {r : Response} (h : ∀ j ∈ r.data, Carries j) : ofBytes (Text.bytesOf r.text) = .ok r := by
  have reads := Record.reads_members (fun m hm => (of_mem_members h hm).1) r.nodup_members r.lacking_members
  rw [← toJson_eq, fill_members] at reads
  rw [text, Json.text, Text.bytesOf, String.toList_ofList]
  exact Format.ofBytes_chars reads (depth_toJson h)

end Response

end FocusJournal
