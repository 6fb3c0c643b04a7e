import FocusJournal.Json.Mismatch
import FocusJournal.Text.Utf8

/-!
# Faults in JSON text

Why a text cannot be read, and where. A fault keeps what was ahead when it was found; its place is counted in bytes, the
line from one and the column by the bytes of the line that were taken.

* `Fault.message` words a fault with its place in the whole text.
-/

namespace FocusJournal

open Text (Piece)

/-- Why a text cannot be read. -/
inductive Fault.Cause where
  | endOfValue
  | endOfString
  | endOfList
  | endOfObject
  | valueExpected
  | wordExpected
  | colonExpected
  | listEndExpected
  | objectEndExpected
  | keyExpected
  | trailingComma
  | trailingText
  | controlCharacter
  | badEscape
  | escapeCutShort
  | loneSurrogate
  | badNumber
  | numberTooLarge
  | strayBytes
  | tooDeep
  /-- The text is well formed so far but is not what is wanted. -/
  | mismatch (m : Mismatch)

/-- The wording of a cause. -/
def Fault.Cause.text : Fault.Cause → String
  | .endOfValue => "EOF while parsing a value"
  | .endOfString => "EOF while parsing a string"
  | .endOfList => "EOF while parsing a list"
  | .endOfObject => "EOF while parsing an object"
  | .valueExpected => "expected value"
  | .wordExpected => "expected ident"
  | .colonExpected => "expected `:`"
  | .listEndExpected => "expected `,` or `]`"
  | .objectEndExpected => "expected `,` or `\x7d`"
  | .keyExpected => "key must be a string"
  | .trailingComma => "trailing comma"
  | .trailingText => "trailing characters"
  | .controlCharacter => "control character (\\u0000-\\u001F) found while parsing a string"
  | .badEscape => "invalid escape"
  | .escapeCutShort => "unexpected end of hex escape"
  | .loneSurrogate => "lone leading surrogate in hex escape"
  | .badNumber => "invalid number"
  | .numberTooLarge => "number out of range"
  | .strayBytes => "invalid unicode code point"
  | .tooDeep => "recursion limit exceeded"
  | .mismatch m => m.message false

/-- A cause, what was ahead of the reader, and how many bytes of that count as taken. -/
structure Fault where
  cause : Fault.Cause
  ahead : List Piece
  taken : Nat

namespace Fault

/-- A fault found after taking what came before the rest. -/
def after (cause : Cause) (rest : List Piece) : Fault := ⟨cause, rest, 0⟩

/-- A fault found by a look at the next byte, which counts as taken. -/
def peeking (cause : Cause) (ahead : List Piece) : Fault := ⟨cause, ahead, if ahead.isEmpty then 0 else 1⟩

/-- The number of bytes of pieces. -/
def byteCount (pieces : List Piece) : Nat := pieces.foldl (fun n p => n + p.size) 0

/-- The line and the column after bytes. -/
def place (bytes : List UInt8) : Nat × Nat :=
  let step (place : Nat × Nat) (b : UInt8) : Nat × Nat :=
    if b = 10 then (place.1 + 1, 0) else (place.1, place.2 + 1)
  bytes.foldl step (1, 0)

/-- The wording of a fault found while reading the bytes. -/
def message (bytes : List UInt8) (f : Fault) : String :=
  let (line, column) := place (bytes.take (bytes.length - byteCount f.ahead + f.taken))
  f.cause.text ++ " at line " ++ Text.integerText line ++ " column " ++ Text.integerText column

end Fault

end FocusJournal
