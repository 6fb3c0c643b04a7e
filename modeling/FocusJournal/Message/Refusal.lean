import FocusJournal.Json.Mismatch

/-!
# Refusals

Why a message is not accepted. A refusal is a cause; `Refusal.complaint` gives the code and the text that an answer
carries for it.
-/

namespace FocusJournal

/-- What an answer says about an error: a code for programs and a text for people. -/
structure Complaint where
  code : String
  message : String
  deriving DecidableEq

namespace Complaint

/-- The code and the text on one line. -/
def text (c : Complaint) : String := c.code ++ ": " ++ c.message

/-- A complaint on the wire. -/
def toJson (c : Complaint) : Json := .object [("code", .string c.code), ("message", .string c.message)]

end Complaint

/-- Why a message is not accepted. -/
inductive Refusal where
  /-- More bytes came than a request may have. -/
  | tooLarge
  /-- The request was not complete in time. -/
  | tooSlow
  /-- The request is blank. -/
  | empty
  /-- The request is not JSON, for the reason given. -/
  | notJson (reason : String)
  | notAnObject
  /-- The request is neither a control request nor a notification. -/
  | undetermined
  | malformedControl (m : Mismatch)
  | malformedNotification (m : Mismatch)
  | malformedCredentials (m : Mismatch)
  | credentialsMissing
  | unsupportedVersion (version : UInt32)
  /-- A text field is blank. -/
  | blankField (field : String)
  | negativeTab
  | negativeWindow
  | severalFocused
  /-- The reporter takes no more requests. -/
  | shuttingDown
  /-- The reporter went away before it answered. -/
  | dropped
  /-- The reporter did not answer in time. -/
  | unanswered

/-- The code and the text of a refusal. -/
def Refusal.complaint : Refusal → Complaint
  | .tooLarge => ⟨"request_too_large", "request exceeded maximum size"⟩
  | .tooSlow => ⟨"read_timeout", "request timed out"⟩
  | .empty => ⟨"empty_request", "request body was empty"⟩
  | .notJson reason => ⟨"invalid_json", "request was not valid JSON: " ++ reason⟩
  | .notAnObject => ⟨"invalid_request", "request must be a JSON object"⟩
  | .undetermined => ⟨"invalid_request", "request needs an action or an event"⟩
  | .malformedControl m => ⟨"invalid_request", "control request is malformed: " ++ m.message false⟩
  | .malformedNotification m => ⟨"invalid_params", "platform notification is invalid: " ++ m.message true⟩
  | .malformedCredentials m => ⟨"invalid_params", "login payload is invalid: " ++ m.message false⟩
  | .credentialsMissing => ⟨"invalid_params", "login payload is required"⟩
  | .unsupportedVersion version =>
    ⟨"protocol_mismatch", "unsupported protocol version " ++ Text.integerText version.toNat⟩
  | .blankField field => ⟨"missing_field", field ++ " is required"⟩
  | .negativeTab => ⟨"invalid_tab_id", "tab_id must be non-negative"⟩
  | .negativeWindow => ⟨"invalid_window_id", "window_id must be non-negative"⟩
  | .severalFocused => ⟨"invalid_params", "snapshot may mark at most one window as focused"⟩
  | .shuttingDown => ⟨"unavailable", "reporter is shutting down"⟩
  | .dropped => ⟨"unavailable", "reporter dropped the request"⟩
  | .unanswered => ⟨"reply_timeout", "reporter did not answer in time"⟩

end FocusJournal
