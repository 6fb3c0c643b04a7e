import FocusJournal.Message.Action
import FocusJournal.Message.Credentials

/-!
# Control requests

A request for an action, as it comes over the wire and as it is handled once it has been checked.

* `ControlRequest` is the wire form, `Control` the checked one.
* `ControlRequest.check` refuses a foreign version and bad credentials, and gives `none` for a name that is no action.
-/

namespace FocusJournal

/-- A request for an action by name. -/
structure ControlRequest where
  action : String
  payload : Option Json
  id : Option String
  version : Option UInt32

/-- A request that can be handled. -/
inductive Control where
  | startTracking
  | stopTracking
  | getTracking
  | checkLogin
  | isTracking
  | login (credentials : Credentials)
  deriving DecidableEq

/-- The action that a request is for. -/
def Control.action : Control → Action
  | .startTracking => .startTracking
  | .stopTracking => .stopTracking
  | .getTracking => .getTracking
  | .checkLogin => .checkLogin
  | .isTracking => .isTracking
  | .login _ => .login

/-- The version of the messages described here. -/
def protocolVersion : UInt32 := 1

namespace ControlRequest

/-- The request for an action, in the current version. -/
def ofAction (a : Action) : ControlRequest := ⟨a.name, none, none, some protocolVersion⟩

/-- The request to log in with credentials. -/
def login (c : Credentials) : ControlRequest := { ofAction .login with payload := some c.payload }

/-- The fields of a request on the wire. -/
def record : Record ControlRequest where
  title := "struct ControlRequest"
  blank := ⟨"", none, none, none⟩
  fields := [
    .needed "action" .string fun s r => { r with action := s },
    .free "payload" (.optional .json) fun j r => { r with payload := j },
    .free "id" (.optional .string) fun s r => { r with id := s },
    .free "protocol_version" (.optional .uint32) fun n r => { r with version := n }]
  closed := true

/-- A request on the wire. -/
def toJson (r : ControlRequest) : Json :=
  .object (("action", .string r.action) :: (Json.optionalMember "payload" r.payload
    ++ Json.optionalMember "id" (r.id.map .string)
    ++ Json.optionalMember "protocol_version" (r.version.map fun n => .integer n.toNat)))

/-- The request to handle, or none where the name is not in the vocabulary. -/
def check (r : ControlRequest) : Except Refusal (Option Control) :=
  let vocabulary : Except Refusal (Option Control) :=
    match Action.ofName? r.action with
    | none => .ok none
    | some .startTracking => .ok (some .startTracking)
    | some .stopTracking => .ok (some .stopTracking)
    | some .getTracking => .ok (some .getTracking)
    | some .checkLogin => .ok (some .checkLogin)
    | some .isTracking => .ok (some .isTracking)
    | some .login =>
      match r.payload with
      | none => .error .credentialsMissing
      | some payload => (Credentials.ofJson payload).map fun c => some (.login c)
  match r.version with
  | none => vocabulary
  | some version => if version = protocolVersion then vocabulary else .error (.unsupportedVersion version)

end ControlRequest

end FocusJournal
