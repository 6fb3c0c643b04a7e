import FocusJournal.Json.Basic
import FocusJournal.Decimal.Shortest
import FocusJournal.Text.Numeral

/-!
# Writing JSON

The compact form: no blanks, members in the order of the list, and in strings an escape only where one is needed.

* `Json.text` is the written form of a value. The writing functions put characters, last first, before those written
  so far, so that a long list is written in one pass.
-/

namespace FocusJournal

namespace Json

/-- A hexadecimal digit in lower case. -/
def hexDigit (n : Nat) : Char := if n < 10 then Char.ofNat (48 + n) else Char.ofNat (87 + n)

/-- A character as it stands in a string. -/
def escape (c : Char) : List Char :=
  if c = '"' then ['\\', '"']
  else if c = '\\' then ['\\', '\\']
  else if c = '\n' then ['\\', 'n']
  else if c = '\r' then ['\\', 'r']
  else if c = '\t' then ['\\', 't']
  else if c = '\x08' then ['\\', 'b']
  else if c = '\x0c' then ['\\', 'f']
  else if c.toNat < 32 then ['\\', 'u', '0', '0', hexDigit (c.toNat / 16), hexDigit (c.toNat % 16)]
  else [c]

/-- Writes characters one by one, each before those written so far. -/
def write (cs written : List Char) : List Char := cs.reverseAux written

/-- Writes a string in double quotes. -/
def writeString (s : String) (written : List Char) : List Char :=
  '"' :: s.toList.foldl (fun out c => write (escape c) out) ('"' :: written)

mutual

/-- Writes a value. -/
def writeValue : Json → List Char → List Char
  | .null, written => write ['n', 'u', 'l', 'l'] written
  | .bool true, written => write ['t', 'r', 'u', 'e'] written
  | .bool false, written => write ['f', 'a', 'l', 's', 'e'] written
  | .integer n, written => write (Text.integerChars n) written
  | .float x, written => write (Decimal.text x) written
  | .string s, written => writeString s written
  | .array items, written => ']' :: writeItems items true ('[' :: written)
  | .object members, written => '\x7d' :: writeMembers members true ('\x7b' :: written)

/-- Writes the items of an array, each but the first after a comma. -/
def writeItems : List Json → (first : Bool) → List Char → List Char
  | [], _, written => written
  | item :: rest, first, written =>
    writeItems rest false (writeValue item (if first then written else ',' :: written))

/-- Writes the members of an object, each but the first after a comma. -/
def writeMembers : List (String × Json) → (first : Bool) → List Char → List Char
  | [], _, written => written
  | (key, value) :: rest, first, written =>
    writeMembers rest false
      (writeValue value (':' :: writeString key (if first then written else ',' :: written)))

end

/-- The characters of the written form. -/
def chars (j : Json) : List Char := (writeValue j []).reverse

/-- The written form of a value. -/
def text (j : Json) : String := String.ofList j.chars

end Json

end FocusJournal
