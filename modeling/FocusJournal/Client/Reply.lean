import FocusJournal.Connection.Request
import FocusJournal.Message.Response

/-!
# Replies

What a client makes of the bytes that come back: it passes over blank lines and pending answers and takes the first
final answer.

* `Reply.read` reads a reply, and `Failure.text` words what can go wrong.
-/

namespace FocusJournal

/-- Why a request got no good answer. -/
inductive Failure where
  /-- No one listens. -/
  | unreachable
  /-- The reply ended before a final answer. -/
  | unanswered
  /-- The reply is not text. -/
  | unreadable
  /-- A line of the reply is too long. -/
  | tooLarge
  /-- A line of the reply is no response, for the reason given. -/
  | malformed (reason : String)
  | rejected (complaint : Complaint)

/-- What is said of bytes that are not text. -/
def notText : String := "stream did not contain valid UTF-8"

/-- The wording of a failure. -/
def Failure.text : Failure → String
  | .unreachable => "Failed to connect to reporter socket"
  | .unanswered => "Reporter closed the connection without answering"
  | .unreadable => "Failed to read response: " ++ notText
  | .tooLarge => "Response exceeded maximum size"
  | .malformed reason => "Failed to parse response JSON: " ++ reason
  | .rejected c => "Reporter rejected the request: " ++ c.text

namespace Reply

/-- The lines of a reply with their ends; the bytes of the line that is being read come last first. -/
def linesFrom (line : List UInt8) : List UInt8 → List (List UInt8)
  | [] => if line.isEmpty then [] else [line.reverse]
  | b :: rest =>
    if b = Request.lineEnd then (b :: line).reverse :: linesFrom [] rest else linesFrom (b :: line) rest

/-- The complaint of an answer that says nothing of why it refuses. -/
def unexplained : Complaint := ⟨"unknown", "reporter returned no error"⟩

/-- What a final answer comes to. -/
def conclude (r : Response) : Except Failure Response :=
  if r.ok then .ok r else .error (.rejected (r.error.getD unexplained))

/-- The first final answer in the lines of a reply. -/
def await : List (List UInt8) → Except Failure Response
  | [] => .error .unanswered
  | line :: rest =>
    match Text.text? line with
    | none => .error .unreadable
    | some cs =>
      if Request.maxBytes < line.length then .error .tooLarge
      else if cs.all Text.isBlank then await rest
      else
        match Response.ofBytes (Text.encode (Text.trimChars cs)) with
        | .error reason => .error (.malformed reason)
        | .ok r => if r.pending then await rest else conclude r

/-- The final answer in the bytes of a reply, if anyone listens. -/
def read : Option (List UInt8) → Except Failure Response
  | none => .error .unreachable
  | some bytes => await (linesFrom [] bytes)

end Reply

end FocusJournal
