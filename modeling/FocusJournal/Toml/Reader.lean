import FocusJournal.Toml.Scalar

/-!
# Reading TOML text

A text is read as statements, one a line, which are then obeyed. Whatever is wrong with a text, the answer is that it is
no document.

* `Toml.ofText?` reads a whole text.
-/

namespace FocusJournal.Toml

/-! ## Keys -/

/-- A letter of a key without quotes. -/
def isKeyChar (c : Char) : Bool := c.isAlphanum || c == '-' || c == '_'

/-- Takes one part of a key. -/
def readKeyPart (ahead : List Char) : Reading String :=
  let bare := ahead.takeWhile isKeyChar
  if bare.isEmpty then readLineQuoted ahead else some (String.ofList bare, ahead.drop bare.length)

/-- The number of parts that a key with dots has to stay below. -/
def keyPartLimit : Nat := 80

/-- Takes a key with dots, and blanks around its parts; the parts read come last first. -/
def readParts (read : List String) : (budget : Nat) → List Char → Reading Place
  | 0, _ => none
  | budget + 1, ahead =>
    match readKeyPart (skipGap ahead) with
    | none => none
    | some (part, rest) =>
      match skipGap rest with
      | '.' :: rest => readParts (part :: read) budget rest
      | rest => some (⟨read.reverse, part⟩, rest)

/-- Takes a key with dots. -/
def readPlace (ahead : List Char) : Reading Place := readParts [] (keyPartLimit - 1) ahead

/-- Takes a key and the sign between it and its value. -/
def readKey (ahead : List Char) : Reading Place :=
  match readPlace ahead with
  | some (place, '=' :: rest) => some (place, skipGap rest)
  | _ => none

/-! ## Values -/

/-- The characters after a comment. -/
def skipComment : List Char → List Char
  | '#' :: rest => rest.dropWhile isPlain
  | ahead => ahead

/-- The characters after the blanks, line breaks and comments that they begin with. -/
def skipRoom : (budget : Nat) → List Char → List Char
  | 0, ahead => ahead
  | budget + 1, ahead =>
    match skipLines ahead with
    | '#' :: rest => skipRoom budget (rest.dropWhile isPlain)
    | ahead => ahead

mutual

/-- Takes any value; `levels` more brackets may be opened. -/
def readValue : (budget levels : Nat) → List Char → Reading Toml
  | 0, _, _ => none
  | _, _, [] => none
  | budget + 1, levels, c :: rest =>
    if c = '"' ∨ c = '\'' then (readQuoted (c :: rest)).map fun (s, rest) => (.string s, rest)
    else if c = '[' then
      match levels with
      | 0 => none
      | levels + 1 => readItems budget levels [] rest
    else if c = '\x7b' then
      match levels with
      | 0 => none
      | levels + 1 => readEntries budget levels [] rest
    else readScalar (c :: rest)

/-- Takes the items of an array after its bracket or a comma; those read come last first. -/
def readItems : (budget levels : Nat) → (read : List Toml) → List Char → Reading Toml
  | 0, _, _, _ => none
  | budget + 1, levels, read, ahead =>
    match skipRoom budget ahead with
    | ']' :: rest => some (.array read.reverse, rest)
    | ahead =>
      match readValue budget levels ahead with
      | none => none
      | some (item, rest) =>
        match skipRoom budget rest with
        | ']' :: rest => some (.array (item :: read).reverse, rest)
        | ',' :: rest => readItems budget levels (item :: read) rest
        | _ => none

/-- Takes the entries of a table written as a value after its bracket or a comma; those read come last first. -/
def readEntries : (budget levels : Nat) → (read : List (Place × Toml)) → List Char → Reading Toml
  | 0, _, _, _ => none
  | budget + 1, levels, read, ahead =>
    match skipGap ahead with
    | '\x7d' :: rest => if read.isEmpty then some (.table .inline [], rest) else none
    | ahead =>
      match readKey ahead with
      | none => none
      | some (place, rest) =>
        match readValue budget levels rest with
        | none => none
        | some (value, rest) =>
          match skipGap rest with
          | '\x7d' :: rest => (inline? ((place, value) :: read).reverse).map fun table => (table, rest)
          | ',' :: rest => readEntries budget levels ((place, value) :: read) rest
          | _ => none

end

/-! ## Lines -/

/-- The number of brackets that may be open at once in a value. -/
def depthLimit : Nat := 79

/-- Takes a header after its first bracket. -/
def readHeader : List Char → Reading Statement
  | '[' :: rest =>
    match readPlace rest with
    | some (place, ']' :: ']' :: rest) => some (.adds place, rest)
    | _ => none
  | ahead =>
    match readPlace ahead with
    | some (place, ']' :: rest) => some (.opens place, rest)
    | _ => none

/-- Takes a statement. -/
def readStatement (budget : Nat) : List Char → Reading Statement
  | '[' :: rest => readHeader rest
  | ahead =>
    match readKey ahead with
    | none => none
    | some (place, rest) => (readValue budget depthLimit rest).map fun (value, rest) => (.gives place value, rest)

/-- Takes the end of a line: blanks, a comment, and a line break unless the text ends. -/
def readLineEnd? (ahead : List Char) : Option (List Char) :=
  match skipComment (skipGap ahead) with
  | [] => some []
  | ahead => readBreak? ahead

/-- The statements of a text; those read come last first. -/
def readLines (read : List Statement) : (budget : Nat) → List Char → Option (List Statement)
  | 0, _ => none
  | budget + 1, ahead =>
    match skipGap ahead with
    | [] => some read.reverse
    | c :: rest =>
      if c = '#' ∨ c = '\n' ∨ c = '\r' then
        match readLineEnd? (c :: rest) with
        | none => none
        | some rest => readLines read budget rest
      else
        match readStatement (3 * rest.length + 3) (c :: rest) with
        | none => none
        | some (statement, rest) =>
          match readLineEnd? rest with
          | none => none
          | some rest => readLines (statement :: read) budget rest

/-- The text without a mark of its byte order. -/
def withoutByteOrderMark : List Char → List Char
  | '\ufeff' :: rest => rest
  | cs => cs

/-- The table that a text describes. -/
def ofText? (cs : List Char) : Option Members :=
  let cs := withoutByteOrderMark cs
  match readLines [] (cs.length + 1) cs with
  | some statements => Members.obey [] [] statements
  | none => none

end FocusJournal.Toml
