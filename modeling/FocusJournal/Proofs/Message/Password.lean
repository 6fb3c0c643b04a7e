import FocusJournal.Message.Envelope
import FocusJournal.Proofs.Json.Records
import FocusJournal.Proofs.Message.Credentials

/-!
# Another password

A request to log in stays one when the password in it is replaced by another string that is not blank: it is read as the
same request (`Envelope.ofJson_repassword`), and what it comes to differs in the password and in nothing else
(`ControlRequest.check_repassword`).
-/

namespace FocusJournal

/-- Members with the value of a key changed. -/
def Json.change (key : String) (f : Json → Json) (members : List (String × Json)) : List (String × Json) :=
  members.map fun m => (m.1, if m.1 = key then f m.2 else m.2)

/-- A payload with another password. -/
def Credentials.repassword (word : String) : Json → Json
  | .object members => .object (Json.change "password" (fun _ => .string word) members)
  | .array [server, username, _, device] => .array [server, username, .string word, device]
  | j => j

/-- A request with another password in its payload. -/
def ControlRequest.repassword (word : String) : Json → Json
  | .object members => .object (Json.change "payload" (Credentials.repassword word) members)
  | j => j

namespace Json

variable {key : String} {f : Json → Json} {members : List (String × Json)}

/-- A change of values leaves the keys as they are. -/
lemma map_fst_change : (change key f members).map Prod.fst = members.map Prod.fst := by
  rw [change, List.map_map]
  rfl

/-- Members that are changed can be reversed before or after. -/
lemma reverse_change : (change key f members).reverse = change key f members.reverse := List.map_reverse.symm

/-- What is found under the key is changed, and under any other key it is as before. -/
lemma lookup_change (name : String) :
    (change key f members).lookup name = (members.lookup name).map fun j => if name = key then f j else j := by
  induction members with
  | nil => rfl
  | cons m members ih =>
    obtain ⟨k, j⟩ := m
    rw [change, List.map_cons, List.lookup_cons, List.lookup_cons]
    cases hk : name == k with
    | true => rw [beq_iff_eq.1 hk]; rfl
    | false => exact ih

end Json

namespace Credentials

variable {c : Credentials} {payload : Json} {word : String}

/-- The form of credentials does not depend on what the password is. -/
lemma Form.repassword (form : Form payload c) : Form (repassword word payload) { c with password := word } := by
  cases form with
  | @object members _ keys texts values =>
    refine .object ?keys ?texts ?values
    case keys =>
      rw [Json.map_fst_change]
      exact keys
    case texts =>
      refine List.forall_mem_map.2 fun m hm => ?_
      dsimp only
      split
      · exact ⟨word, rfl⟩
      · exact texts m hm
    case values =>
      have value name s (hf : (name, s) ∈ c.fields) : members.reverse.lookup name = some (.string s) := values _ hf
      simp only [fields, List.mem_cons, List.not_mem_nil, or_false, Prod.mk.injEq] at value
      rw [Json.reverse_change]
      simp [fields, Json.lookup_change, value]
  | array => exact .array (c := { c with password := word })

/-- Credentials with another password are read from the payload with that password. -/
lemma ofJson_repassword (h : ofJson payload = .ok c) (hw : Text.isBlankString word = false) :
    ofJson (repassword word payload) = .ok { c with password := word } := by
  obtain ⟨form, nonblank⟩ := ofJson_eq_ok.1 h
  refine ofJson_eq_ok.2 ⟨form.repassword, ?_⟩
  simp only [fields, List.forall_mem_cons] at nonblank ⊢
  exact ⟨nonblank.1, nonblank.2.1, hw, nonblank.2.2.2⟩

/-- No payload becomes null by another password. -/
lemma repassword_eq_null : repassword word payload = .null ↔ payload = .null := by
  unfold repassword
  split <;> simp

end Credentials

namespace ControlRequest

/-- The request with its payload changed. -/
def mapPayload (f : Json → Json) (r : ControlRequest) : ControlRequest := { r with payload := r.payload.map f }

section Changed

variable {f : Json → Json} (hf : ∀ j, f j = .null ↔ j = .null) {members : List (String × Json)}

include hf

/-- A payload that does not become null is still read as a payload. -/
lemma exists_payload (j : Json) :
    ∃ payload, Format.json.optional.ofJson j = .ok payload ∧
      Format.json.optional.ofJson (f j) = .ok (payload.map f) := by
  have present (j : Json) (hj : j ≠ .null) : Format.json.optional.ofJson j = .ok (some j) := by
    cases j with
    | null => exact absurd rfl hj
    | _ => rfl
  by_cases hj : j = .null
  · rw [hj, (hf .null).2 rfl]
    exact ⟨none, rfl, rfl⟩
  · exact ⟨some j, present j hj, present (f j) fun h => hj ((hf j).1 h)⟩

/-- A member is put into the request with the changed payload as it is into the one before. -/
lemma putMember_change (r : ControlRequest) (given : List String) (m : String × Json) :
    record.putMember (r.mapPayload f, given) (m.1, if m.1 = "payload" then f m.2 else m.2) =
      (record.putMember (r, given) m).map fun state => (state.1.mapPayload f, state.2) := by
  obtain ⟨name, j⟩ := m
  have other {β : Type} (read : Except Mismatch β) (put : β → ControlRequest → ControlRequest)
      (apart : ∀ b, put b (r.mapPayload f) = (put b r).mapPayload f) :
      (read.map put).map (fun put => (put (r.mapPayload f), name :: given)) =
        ((read.map put).map fun put => (put r, name :: given)).map fun state => (state.1.mapPayload f, state.2) := by
    cases read with
    | error m => rfl
    | ok b => exact congrArg (fun s => Except.ok (s, name :: given)) (apart b)
  simp only [Record.putMember]
  cases hn : record.field? name with
  | none => rfl
  | some field =>
    have named := Record.name_of_field? hn
    have listed := List.mem_of_find?_eq_some hn
    simp only [record, List.mem_cons, List.not_mem_nil, or_false] at listed
    dsimp only
    -- A field other than the payload is read and put as before; the payload is read as one where it was one.
    rcases listed with rfl | rfl | rfl | rfl
    · obtain rfl : "action" = name := named
      exact other (Format.string.ofJson j) _ fun _ => rfl
    · obtain rfl : "payload" = name := named
      obtain ⟨payload, hj, hfj⟩ := exists_payload hf j
      change ((Format.json.optional.ofJson (f j)).map _).map _ =
        (((Format.json.optional.ofJson j).map _).map _).map _
      rw [hj, hfj]
      rfl
    · obtain rfl : "id" = name := named
      exact other (Format.string.optional.ofJson j) _ fun _ => rfl
    · obtain rfl : "protocol_version" = name := named
      exact other (Format.uint32.optional.ofJson j) _ fun _ => rfl

/-- So are members one after the other. -/
lemma foldlM_change (r : ControlRequest) (given : List String) :
    (Json.change "payload" f members).foldlM record.putMember (r.mapPayload f, given) =
      (members.foldlM record.putMember (r, given)).map fun state => (state.1.mapPayload f, state.2) := by
  induction members generalizing r given with
  | nil => rfl
  | cons m members ih =>
    rw [Json.change, List.map_cons, List.foldlM_cons, List.foldlM_cons, putMember_change hf]
    cases record.putMember (r, given) m with
    | error e => rfl
    | ok state => exact ih state.1 state.2

/-- A request is read as before, but for its payload. -/
lemma ofMembers_change :
    record.ofMembers (Json.change "payload" f members) = (record.ofMembers members).map (mapPayload f) := by
  have folded : (Json.change "payload" f members).foldlM record.putMember (record.blank.mapPayload f, []) = _ :=
    foldlM_change hf record.blank []
  have blank : record.blank.mapPayload f = record.blank := rfl
  rw [blank] at folded
  rw [Record.ofMembers, Record.ofMembers, folded]
  cases members.foldlM record.putMember (record.blank, []) with
  | error e => rfl
  | ok state =>
    simp only [bind, Except.bind, Except.map]
    cases record.lacking state.2 <;> rfl

end Changed

/-- A request that comes to a login is one for that action, with credentials in its payload. -/
lemma check_eq_login {r : ControlRequest} {c : Credentials} :
    r.check = .ok (some (.login c)) ↔ (∀ version, r.version = some version → version = protocolVersion) ∧
      Action.ofName? r.action = some .login ∧
      ∃ payload, r.payload = some payload ∧ Credentials.ofJson payload = .ok c := by
  obtain ⟨action, payload, id, version⟩ := r
  have unversioned : check ⟨action, payload, id, none⟩ = .ok (some (.login c)) ↔
      Action.ofName? action = some .login ∧ ∃ j, payload = some j ∧ Credentials.ofJson j = .ok c := by
    cases ha : Action.ofName? action with
    | none => simp [check, ha]
    | some a =>
      cases a with
      | login =>
        cases payload with
        | none => simp [check, ha]
        | some j => cases hc : Credentials.ofJson j <;> simp [check, ha, hc, Except.map]
      | startTracking | stopTracking | getTracking | checkLogin | isTracking => simp [check, ha]
  cases version with
  | none => simpa using unversioned
  | some version =>
    by_cases known : version = protocolVersion
    · simpa [check, known] using unversioned
    · simp [check, known]

/-- A request that comes to a login comes to one with the other password, as long as that is not blank. -/
lemma check_repassword {r : ControlRequest} {c : Credentials} {word : String} (h : r.check = .ok (some (.login c)))
    (hw : Text.isBlankString word = false) :
    (r.mapPayload (Credentials.repassword word)).check = .ok (some (.login { c with password := word })) := by
  obtain ⟨version, action, payload, hp, read⟩ := check_eq_login.1 h
  have there : (r.mapPayload (Credentials.repassword word)).payload = some (Credentials.repassword word payload) := by
    rw [mapPayload, hp]
    rfl
  exact check_eq_login.2 ⟨version, action, _, there, Credentials.ofJson_repassword read hw⟩

end ControlRequest

/-- A control request is read as the same one with the other password in its payload. -/
lemma Envelope.ofJson_repassword {j : Json} {request : ControlRequest} (word : String)
    (h : ofJson j = .ok (.control request)) :
    ofJson (ControlRequest.repassword word j) = .ok (.control (request.mapPayload (Credentials.repassword word))) := by
  cases j with
  | object members =>
    simp only [ofJson] at h
    split at h
    · next asked =>
      cases hr : ControlRequest.record.ofJson (.object members) with
      | error m => rw [hr] at h; cases h
      | ok r =>
        rw [hr] at h
        cases h
        have read : ControlRequest.record.ofMembers (Json.change "payload" (Credentials.repassword word) members) =
            .ok (request.mapPayload (Credentials.repassword word)) := by
          rw [ControlRequest.ofMembers_change fun _ => Credentials.repassword_eq_null]
          exact congrArg (Except.map _) hr
        simp [ofJson, ControlRequest.repassword, Json.lookup_change, asked, Record.ofJson, read]
    · split at h
      · cases hn : Notification.parse (.object members) with
        | error e => rw [hn] at h; cases h
        | ok n => rw [hn] at h; cases h
      · cases h
  | _ => cases h

end FocusJournal
