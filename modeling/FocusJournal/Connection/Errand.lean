import FocusJournal.Connection.Request
import FocusJournal.Message.Envelope
import FocusJournal.Message.Response

/-!
# Errands

What a connection does for a request: it refuses it, ignores it, hands a notification to the reporter, or asks the
reporter and relays its answers up to the first final one.

* `Errand.ofReceived` decides what is to be done.
* `relay` gives the lines that are written for a list of answers.
-/

namespace FocusJournal

/-- What a connection does for a request. -/
inductive Errand where
  | refuse (response : Response)
  /-- A request for an action that is not known is dropped without an answer. -/
  | ignore
  | notify (n : Notification)
  | ask (control : Control) (id : Option String)

namespace Errand

/-- What is done for a request that could be read. -/
def ofEnvelope : Envelope → Errand
  | .notification n => .notify n
  | .control request =>
    match request.check with
    | .error r => .refuse (.refused request.id r)
    | .ok none => .ignore
    | .ok (some control) => .ask control request.id

/-- What is done for a request. -/
def ofReceived (received : Except Refusal (List UInt8)) : Errand :=
  match received with
  | .error r => .refuse (.refused none r)
  | .ok line =>
    match Envelope.parse line with
    | .error r => .refuse (.refused none r)
    | .ok envelope => ofEnvelope envelope

end Errand

/-- Why no more answers come. -/
inductive Silence where
  /-- The one who would answer is there and does not. -/
  | waiting
  /-- The one who would answer is gone. -/
  | gone
  deriving DecidableEq

/-- What is said instead of the answer that does not come. -/
def Silence.refusal : Silence → Refusal
  | .waiting => .unanswered
  | .gone => .dropped

/-- The responses that are written for the answers to a request, and the answers that are left. -/
def relay (id : Option String) (silence : Silence) : List Response → List Response × List Response
  | [] => ([.refused id silence.refusal], [])
  | answer :: answers =>
    if answer.pending then
      let (written, left) := relay id silence answers
      (answer :: written, left)
    else ([answer], answers)

end FocusJournal
