import FocusJournal.Message.Control
import FocusJournal.Message.Notification

/-!
# Envelopes

Anything the reporter accepts: a control request or a notification. The key `action` makes an object a control request,
the key `event` makes any other object a notification.

* `Envelope.parse` reads the bytes of a request.
-/

namespace FocusJournal

/-- A request of either kind. -/
inductive Envelope where
  | control (request : ControlRequest)
  | notification (n : Notification)

namespace Envelope

/-- The request that a value gives. -/
def ofJson (j : Json) : Except Refusal Envelope :=
  match j with
  | .object members =>
    if (members.lookup "action").isSome then
      match ControlRequest.record.ofJson j with
      | .error m => .error (.malformedControl m)
      | .ok request => .ok (.control request)
    else if (members.lookup Notification.tag).isSome then (Notification.parse j).map .notification
    else .error .undetermined
  | _ => .error .notAnObject

/-- The request that bytes write. -/
def parse (bytes : List UInt8) : Except Refusal Envelope :=
  match Json.ofBytes bytes with
  | .error reason => .error (.notJson reason)
  | .ok j => ofJson j

end Envelope

end FocusJournal
