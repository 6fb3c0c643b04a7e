import FocusJournal.Message.Envelope
import FocusJournal.Proofs.Connection.Reads
import FocusJournal.Proofs.Json.Values

/-!
# Control requests on the wire

A control request is read back from its bytes as what it was, but for a payload of null, which is taken for no payload
(`ControlRequest.received`). That changes why a login is refused and nothing else: the one who wrote the request and the
one who reads it come to the same when they check it (`ControlRequest.parse_check`).

The request for a login is read as what it was, whatever the strings are in it, and it is refused if one of its fields
is blank.
-/

namespace FocusJournal

open Json (depth plain tidy)
open Record (Member)

/-- A value, unless it is null. -/
def Json.present? : Json → Option Json
  | .null => none
  | j => some j

/-- A payload of null is taken for no payload, and any other for itself. -/
lemma Format.means_present (j : Json) : Format.json.optional.Means j (tidy j).present? := by
  rw [Means]
  cases tidy j <;> rfl

namespace ControlRequest

/-- A request that can be sent. -/
structure Portable (r : ControlRequest) : Prop where
  /-- No number of the payload is a float. -/
  numbers : ∀ j ∈ r.payload, plain j = true
  /-- The objects of the payload have their members in order, each key once, as every tree of values has them. -/
  keys : ∀ j ∈ r.payload, j.ordered = true
  shallow : depth r.toJson ≤ Json.depthLimit

/-- The request as it is read back: null is no payload. -/
def received (r : ControlRequest) : ControlRequest := { r with payload := r.payload.bind Json.present? }

/-- The fields that are there, with what each puts into a request. -/
def members (r : ControlRequest) : List (Member ControlRequest) :=
  ⟨"action", .string r.action, fun s => { s with action := r.action }⟩ ::
    ((r.payload.toList.map fun j => ⟨"payload", j, fun s => { s with payload := j.present? }⟩)
    ++ (r.id.toList.map fun id => ⟨"id", .string id, fun s => { s with id := some id }⟩)
    ++ (r.version.toList.map fun n =>
      ⟨"protocol_version", .integer n.toNat, fun s => { s with version := some n }⟩))

/-- A request is written as the object of its members. -/
lemma toJson_eq (r : ControlRequest) : r.toJson = .object (r.members.map Member.written) := by
  obtain ⟨action, payload, id, version⟩ := r
  cases payload <;> cases id <;> cases version <;> rfl

/-- The members of a request give it back, but for a payload of null. -/
lemma gives_members {r : ControlRequest} (keys : ∀ j ∈ r.payload, j.ordered = true) :
    record.Gives r.members r.received := by
  obtain ⟨action, payload, id, version⟩ := r
  refine ⟨?holds, ?once, ?apart, ?complete, ?filled⟩
  case holds =>
    intro m hm
    simp only [members, List.mem_cons, List.mem_append, List.mem_map, Option.mem_toList] at hm
    rcases hm with rfl | (⟨j, hj, rfl⟩ | ⟨id, _, rfl⟩) | ⟨n, _, rfl⟩
    · exact ⟨_, rfl, Field.ofJson_of (Format.means_string _)⟩
    · have means := Format.means_present j
      rw [Json.tidy_of_ordered (keys j hj)] at means
      exact ⟨_, rfl, Field.ofJson_of means⟩
    · exact ⟨_, rfl, Field.ofJson_of (Format.means_optional (Format.means_string _) (by simp [tidy]))⟩
    · exact ⟨_, rfl, Field.ofJson_of (Format.means_optional (Format.means_uint32 _) (by simp [tidy]))⟩
  case once => cases payload <;> cases id <;> cases version <;> simp [members]
  case apart => cases payload <;> cases id <;> cases version <;> simp [members]
  case complete => cases payload <;> cases id <;> cases version <;> rfl
  case filled => cases payload <;> cases id <;> cases version <;> rfl

/-- A request is written without floats if its payload has none. -/
lemma plain_toJson {r : ControlRequest} (numbers : ∀ j ∈ r.payload, plain j = true) : plain r.toJson = true := by
  rw [toJson_eq, plain]
  refine Json.plainMembers_of_forall (List.forall_mem_map.2 fun m hm => ?_)
  simp only [members, List.mem_cons, List.mem_append, List.mem_map, Option.mem_toList] at hm
  rcases hm with rfl | (⟨j, hj, rfl⟩ | ⟨id, _, rfl⟩) | ⟨n, _, rfl⟩
  · rfl
  · exact numbers j hj
  · rfl
  · have := n.toNat_lt
    simp only [Member.written, plain, Bool.and_eq_true, decide_eq_true_eq]
    omega

/-- A request is read back from its bytes. -/
lemma parse_received {r : ControlRequest} (h : r.Portable) :
    Envelope.parse (Text.encode r.toJson.chars) = .ok (.control r.received) := by
  have gives := gives_members h.keys
  have read := Json.ofBytes_chars (plain_toJson h.numbers) h.shallow
  have record : ControlRequest.record.ofJson (tidy r.toJson) = .ok r.received := by
    rw [toJson_eq]
    exact gives.means
  obtain ⟨sorted, perm, brought⟩ := gives.exists_tidy
  rw [← toJson_eq] at brought
  have asked : ((sorted.map Member.tidied).lookup "action").isSome = true := by
    rw [Option.isSome_iff_ne_none, Ne, List.lookup_eq_none_iff]
    intro absent
    have named : (⟨"action", .string r.action, fun s => { s with action := r.action }⟩ : Member ControlRequest) ∈ sorted :=
      perm.mem_iff.2 (.head _)
    simpa [Member.tidied] using absent _ (List.mem_map_of_mem named)
  rw [Envelope.parse, read]
  rw [brought] at record ⊢
  simp only [Envelope.ofJson, asked, record, if_true]

/-- The line of a request is received as it was sent. -/
lemma receive_toJson {r : ControlRequest} {ending : Request.Ending} {reads : List (List UInt8)} (h : r.Portable)
    (whole : reads.flatten = Text.encode r.toJson.chars ++ [Request.lineEnd])
    (short : (Text.encode r.toJson.chars ++ [Request.lineEnd]).length ≤ Request.maxBytes) :
    Request.receive ending reads = .ok (Text.encode r.toJson.chars) := by
  have shown : (Text.encode r.toJson.chars).all Text.isAsciiBlank = false := by
    rw [Json.chars_eq]
    rfl
  exact Request.receive_line whole (Json.newline_not_mem (plain_toJson h.numbers)) shown short

/-! ## Checking -/

/-- Two checks come to the same: to one control or to no known action, or to refusals with one code. -/
inductive Agree : Except Refusal (Option Control) → Except Refusal (Option Control) → Prop where
  | granted (control? : Option Control) : Agree (.ok control?) (.ok control?)
  | refused {reason reason' : Refusal} (code : reason.complaint.code = reason'.complaint.code) :
    Agree (.error reason) (.error reason')

/-- A check comes to the same as itself. -/
lemma Agree.refl (result : Except Refusal (Option Control)) : Agree result result := by
  cases result with
  | error reason => exact .refused rfl
  | ok control? => exact .granted control?

/-- A login is refused without a payload, and with one of null for that. -/
lemma agree_null (action : String) (id : Option String) (version : Option UInt32) :
    Agree (check ⟨action, some .null, id, version⟩) (check ⟨action, none, id, version⟩) := by
  have unversioned : Agree (check ⟨action, some .null, id, none⟩) (check ⟨action, none, id, none⟩) := by
    cases ha : Action.ofName? action with
    | none =>
      simp only [check, ha]
      exact .granted none
    | some a =>
      simp only [check, ha]
      cases a with
      | login => exact .refused rfl
      | startTracking | stopTracking | getTracking | checkLogin | isTracking => exact .granted _
  cases version with
  | none => exact unversioned
  | some version =>
    by_cases known : version = protocolVersion
    · simpa only [check, known, if_true] using unversioned
    · simp only [check, known, if_false]
      exact .refused rfl

/-- A null in a request is no reason to come to anything else. -/
lemma agree_check (r : ControlRequest) : Agree r.check r.received.check := by
  obtain ⟨action, payload, id, version⟩ := r
  match payload with
  | none => exact .refl _
  | some (.bool _) | some (.integer _) | some (.float _) | some (.string _) | some (.array _) | some (.object _) =>
    exact .refl _
  | some .null => exact agree_null action id version

/-- A request is read back from its bytes, and what it comes to when it is checked is what it came to before. -/
theorem parse_check {r : ControlRequest} (h : r.Portable) :
    Envelope.parse (Text.encode r.toJson.chars) = .ok (.control r.received) ∧ Agree r.check r.received.check :=
  ⟨parse_received h, agree_check r⟩

/-- A login with a payload of null, under an id with an end of line in it. -/
def nullLogin : ControlRequest := ⟨"LOGIN", some .null, some "7\n", some 1⟩

/-- The login with a payload of null is read back as one without. -/
theorem parse_check_nullPayload :
    nullLogin.Portable ∧
      Envelope.parse (Text.encode nullLogin.toJson.chars) = .ok (.control ⟨"LOGIN", none, some "7\n", some 1⟩) ∧
      Agree nullLogin.check (check ⟨"LOGIN", none, some "7\n", some 1⟩) := by
  have portable : nullLogin.Portable := by
    refine ⟨?_, ?_, by decide⟩
    · intro j hj
      cases hj
      rfl
    · intro j hj
      cases hj
      rfl
  exact ⟨portable, parse_check portable⟩

/-! ## Logins -/

/-- A request to log in can be sent, whatever the credentials are. -/
lemma portable_login (c : Credentials) : (login c).Portable := by
  have keys : ["deviceName", "password", "serverName", "username"].Pairwise (· < ·) := by decide
  refine ⟨?_, ?_, show 2 ≤ 127 by decide⟩
  · intro j hj
    cases hj
    rfl
  · intro j hj
    cases hj
    simp only [Credentials.payload, Json.ordered, Json.orderedMembers, List.map_cons, List.map_nil, keys, decide_true,
      Bool.and_self]

/-- There are no numbers in a request to log in that do not fit. -/
lemma plain_login (c : Credentials) : plain (login c).toJson = true := rfl

/-- The members of a request to log in are in the order of their keys. -/
lemma ordered_login (c : Credentials) : (login c).toJson.ordered = true := by
  have keys : ["action", "payload", "protocol_version"].Pairwise (· < ·) := by decide
  have payload : c.payload.ordered = true := (portable_login c).keys c.payload rfl
  have members : (login c).toJson =
      .object [("action", .string "LOGIN"), ("payload", c.payload), ("protocol_version", .integer 1)] := rfl
  simp only [members, Json.ordered, Json.orderedMembers, List.map_cons, List.map_nil, keys, payload, decide_true,
    Bool.and_self]

/-- A login is the value that its bytes write. -/
lemma ofBytes_login (c : Credentials) : Json.ofBytes (Text.encode (login c).toJson.chars) = .ok (login c).toJson := by
  rw [Json.ofBytes_chars (plain_login c) (portable_login c).shallow, Json.tidy_of_ordered (ordered_login c)]

/-- A login is read back from its bytes. -/
lemma parse_login (c : Credentials) : Envelope.parse (Text.encode (login c).toJson.chars) = .ok (.control (login c)) :=
  parse_received (portable_login c)

/-- A login is refused for its first blank field, and otherwise handled with the credentials that were given. -/
lemma check_login (c : Credentials) :
    (login c).check = match c.blankField? with
      | some field => .error (.blankField field)
      | none => .ok (some (.login c)) := by
  have read : Credentials.record.ofJson c.payload = .ok c := rfl
  have checked : (login c).check = (Credentials.ofJson c.payload).map fun c => some (.login c) := rfl
  rw [checked, Credentials.ofJson, read]
  cases hb : c.blankField? <;> simp [hb, Except.map]

end ControlRequest

end FocusJournal
