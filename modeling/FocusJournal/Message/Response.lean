import FocusJournal.Json.Format
import FocusJournal.Json.Printer
import FocusJournal.Message.Refusal

/-!
# Responses

What the reporter answers: one line that says whether the request succeeded, with the id of the request, a value or a
complaint. A pending line comes before the final one of a deferred action.

* `Response.toJson` and `Response.ofBytes` are the wire form and its reading.
-/

namespace FocusJournal

/-- An answer to a request. -/
structure Response where
  ok : Bool
  id : Option String
  pending : Bool
  data : Option Json
  error : Option Complaint

namespace Response

/-- Success with a value. -/
def value (id : Option String) (data : Json) : Response := ⟨true, id, false, some data, none⟩

/-- Success with a truth value. -/
def truth (id : Option String) (b : Bool) : Response := value id (.bool b)

/-- Success without a value. -/
def ack (id : Option String) : Response := ⟨true, id, false, none, none⟩

/-- The final answer follows. -/
def later (id : Option String) : Response := ⟨true, id, true, none, none⟩

/-- Failure for a reason. -/
def refused (id : Option String) (reason : Refusal) : Response := ⟨false, id, false, none, some reason.complaint⟩

/-- The answer to a notification that was taken. -/
def accepted : Response := value none (.object [("accepted", .bool true)])

/-- A response on the wire: what is absent is left out, and so is `pending` on a final line. -/
def toJson (r : Response) : Json :=
  .object (("ok", .bool r.ok) :: (Json.optionalMember "id" (r.id.map .string)
    ++ (if r.pending then [("pending", .bool true)] else [])
    ++ Json.optionalMember "data" r.data
    ++ Json.optionalMember "error" (r.error.map Complaint.toJson)))

/-- The fields of a complaint on the wire. -/
def complaintRecord : Record Complaint where
  title := "struct ErrorInfo"
  blank := ⟨"", ""⟩
  fields := [
    .needed "code" .string fun s c => { c with code := s },
    .needed "message" .string fun s c => { c with message := s }]
  closed := false

/-- The fields of a response on the wire. -/
def record : Record Response where
  title := "struct Response"
  blank := ⟨false, none, false, none, none⟩
  fields := [
    .needed "ok" .bool fun b r => { r with ok := b },
    .free "id" (.optional .string) fun s r => { r with id := s },
    .free "pending" .bool fun b r => { r with pending := b },
    .free "data" (.optional .json) fun j r => { r with data := j },
    .free "error" (.optional complaintRecord.format) fun c r => { r with error := c }]
  closed := false

/-- The response that bytes write. -/
def ofBytes (bytes : List UInt8) : Except String Response := record.format.ofBytes bytes

/-- The truth value that a response carries. -/
def asBool? (r : Response) : Option Bool := r.data.bind Json.asBool?

/-- The written form of a response, without the end of its line. -/
def text (r : Response) : String := r.toJson.text

end Response

end FocusJournal
