import FocusJournal.Client.Reply
import FocusJournal.Json.Printer

/-!
# Dialogues

What a command does with the reporter: it exchanges messages for answers, one after the other, and what it says next may
depend on the answers. A dialogue can be held with anything that answers lines.

* `Dialogue.hold` holds a dialogue and gives the lines that were sent.
-/

namespace FocusJournal

/-- A conversation that ends with a result. -/
inductive Dialogue (α : Type) where
  | done (result : α)
  /-- Sends a message; what comes after depends on the answer. -/
  | exchange (message : Json) (next : Except Failure Response → Dialogue α)

namespace Dialogue

variable {α σ : Type}

/-- The bytes that a message is sent as. -/
def lineOf (message : Json) : List UInt8 := Text.encode message.chars ++ [Request.lineEnd]

/-- Holds a dialogue with one who turns the bytes of a request into the bytes of a reply, if anyone listens; gives the
messages that were sent. -/
def hold (answer : σ → List UInt8 → σ × Option (List UInt8)) (s : σ) : Dialogue α → σ × List Json × α
  | done result => (s, [], result)
  | exchange message next =>
    let (s, reply) := answer s (lineOf message)
    let (s, sent, result) := hold answer s (next (Reply.read reply))
    (s, message :: sent, result)

end Dialogue

end FocusJournal
