import FocusJournal.Text.Numeral

/-!
# Quoted text

Text between quotes, on one line or on several. Double quotes know escapes, single quotes know none. Text on several
lines stands between three quotes on each side, of which those on the right may be preceded by two that belong to the
text; a line break right after the quotes on the left does not.

* `readQuoted` takes text with any of the four kinds of quotes, `readLineQuoted` with one quote on each side.
-/

namespace FocusJournal.Toml

/-- What is read from the characters ahead, with those after it. -/
abbrev Reading (α : Type) := Option (α × List Char)

/-- A character that stands for itself wherever text is free: all but control characters, and the tab. -/
def isPlain (c : Char) : Bool := c == '\t' || (32 ≤ c.toNat && c.toNat != 127)

/-- A blank within a line. -/
def isGap (c : Char) : Bool := c == ' ' || c == '\t'

/-- The characters after the blanks that they begin with. -/
def skipGap (ahead : List Char) : List Char := ahead.dropWhile isGap

/-- Takes a line break. -/
def readBreak? : List Char → Option (List Char)
  | '\n' :: rest => some rest
  | '\r' :: '\n' :: rest => some rest
  | _ => none

/-- The characters after the blanks and line breaks that they begin with. -/
def skipLines : List Char → List Char
  | [] => []
  | '\r' :: '\n' :: rest => skipLines rest
  | c :: rest => if isGap c ∨ c = '\n' then skipLines rest else c :: rest

/-! ## Escapes -/

/-- Takes so many hexadecimal digits onto a number. -/
def readHex (number : Nat) : (count : Nat) → List Char → Reading Nat
  | 0, ahead => some (number, ahead)
  | _ + 1, [] => none
  | count + 1, c :: rest =>
    match Text.hexDigit? c with
    | some d => readHex (16 * number + d) count rest
    | none => none

/-- Takes the character that so many hexadecimal digits name. -/
def readCode (count : Nat) (ahead : List Char) : Reading Char :=
  match readHex 0 count ahead with
  | some (code, rest) => if code.isValidChar then some (Char.ofNat code, rest) else none
  | none => none

/-- The character that a one-letter escape stands for. -/
def escaped? (c : Char) : Option Char :=
  if c = 'b' then some '\x08'
  else if c = 't' then some '\t'
  else if c = 'n' then some '\n'
  else if c = 'f' then some '\x0c'
  else if c = 'r' then some '\r'
  else if c = '"' then some '"'
  else if c = '\\' then some '\\'
  else none

/-- Takes an escape after its backslash. -/
def readEscape : List Char → Reading Char
  | [] => none
  | c :: rest =>
    if c = 'u' then readCode 4 rest
    else if c = 'U' then readCode 8 rest
    else (escaped? c).map fun written => (written, rest)

/-! ## One line -/

/-- Takes text up to a single quote; the characters read come last first. -/
def readLiteral (read : List Char) : List Char → Reading String
  | [] => none
  | c :: rest =>
    if c = '\'' then some (String.ofList read.reverse, rest)
    else if isPlain c then readLiteral (c :: read) rest
    else none

/-- Takes text with escapes up to a double quote; the characters read come last first. -/
def readBasic : (budget : Nat) → (read : List Char) → List Char → Reading String
  | 0, _, _ => none
  | _, _, [] => none
  | budget + 1, read, c :: rest =>
    if c = '"' then some (String.ofList read.reverse, rest)
    else if c = '\\' then
      match readEscape rest with
      | some (written, rest) => readBasic budget (written :: read) rest
      | none => none
    else if isPlain c then readBasic budget (c :: read) rest
    else none

/-- Takes text between one quote on each side. -/
def readLineQuoted : List Char → Reading String
  | [] => none
  | quote :: rest =>
    if quote = '"' then readBasic (rest.length + 1) [] rest
    else if quote = '\'' then readLiteral [] rest
    else none

/-! ## Several lines -/

/-- How many times a character stands at the beginning. -/
def runLength (c : Char) (ahead : List Char) : Nat := (ahead.takeWhile (· == c)).length

/-- What a backslash stands for in text on several lines: it hides a line break and all blanks after that. -/
def readContinued (ahead : List Char) : Reading (Option Char) :=
  match readBreak? (skipGap ahead) with
  | some rest => some (none, skipLines rest)
  | none => (readEscape ahead).map fun (written, rest) => (some written, rest)

/-- Takes text up to three quotes, with escapes or without; the characters read come last first. -/
def readSeveral (quote : Char) (escapes : Bool) : (budget : Nat) → (read : List Char) → List Char → Reading String
  | 0, _, _ => none
  | _, _, [] => none
  | budget + 1, read, c :: rest =>
    if c = quote then
      let run := runLength quote (c :: rest)
      if run < 3 then readSeveral quote escapes budget (quote :: read) rest
      else if run ≤ 5 then
        some (String.ofList (List.replicate (run - 3) quote ++ read).reverse, (c :: rest).drop run)
      else none
    else if escapes ∧ c = '\\' then
      match readContinued rest with
      | some (some written, rest) => readSeveral quote escapes budget (written :: read) rest
      | some (none, rest) => readSeveral quote escapes budget read rest
      | none => none
    else
      match readBreak? (c :: rest) with
      | some rest => readSeveral quote escapes budget ('\n' :: read) rest
      | none => if isPlain c then readSeveral quote escapes budget (c :: read) rest else none

/-- Takes quoted text of any kind. -/
def readQuoted (ahead : List Char) : Reading String :=
  match ahead with
  | a :: b :: c :: rest =>
    if a = b ∧ b = c ∧ (a = '"' ∨ a = '\'') then
      let body := (readBreak? rest).getD rest
      readSeveral a (a == '"') (body.length + 1) [] body
    else readLineQuoted ahead
  | _ => readLineQuoted ahead

end FocusJournal.Toml
