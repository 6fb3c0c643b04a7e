import FocusJournal.Json.Fault

/-!
# Reading JSON text

A reader takes pieces of text and gives a value with what is ahead of it, or a fault. Values nest to a limited depth;
every reader of nested values is bounded by a budget of steps, which `budget` makes large enough for the text.

* `Reader` is the type of readers; `Reader.run` reads a whole text.
* `readJson` reads any value, `readText` the rest of a string, `readNumber` a number.
-/

namespace FocusJournal

open Text (Piece isDigit digitValue hexDigit?)

namespace Json

/-- What a reader gives: a value and the pieces ahead of it, or a fault. -/
abbrev Result (α : Type) := Except Fault (α × List Piece)

/-- The pieces after the blanks they begin with. -/
def skipBlanks : List Piece → List Piece
  | .char c :: rest => if c = ' ' ∨ c = '\n' ∨ c = '\t' ∨ c = '\r' then skipBlanks rest else .char c :: rest
  | pieces => pieces

/-- Takes the rest of a word, letter by letter. -/
def readWord : List Char → List Piece → Except Fault (List Piece)
  | [], ahead => .ok ahead
  | _ :: _, [] => .error (.after .endOfValue [])
  | letter :: letters, .char c :: rest =>
    if c = letter then readWord letters rest else .error (.peeking .wordExpected (.char c :: rest))
  | _ :: _, .stray b :: rest => .error (.peeking .wordExpected (.stray b :: rest))

/-! ## Strings -/

/-- The fault of four bytes that are not hexadecimal digits, or of fewer bytes. -/
def hexFault (ahead : List Piece) : Fault :=
  if Fault.byteCount (ahead.take 4) < 4 then .after .endOfString [] else ⟨.badEscape, ahead, 4⟩

/-- Takes the four hexadecimal digits of an escape. -/
def readHex : List Piece → Result Nat
  | .char a :: .char b :: .char c :: .char d :: rest =>
    match hexDigit? a, hexDigit? b, hexDigit? c, hexDigit? d with
    | some a, some b, some c, some d => .ok (4096 * a + 256 * b + 16 * c + d, rest)
    | _, _, _, _ => .error (hexFault (.char a :: .char b :: .char c :: .char d :: rest))
  | ahead => .error (hexFault ahead)

/-- Takes one character that the second half of a pair needs. -/
def readPairLink (link : Char) : List Piece → Except Fault (List Piece)
  | [] => .error (.after .endOfString [])
  | .char c :: rest => if c = link then .ok rest else .error (.peeking .escapeCutShort (.char c :: rest))
  | .stray b :: rest => .error (.peeking .escapeCutShort (.stray b :: rest))

/-- Takes the digits of an escape, and of a second one where the first is half of a pair. -/
def readCodeUnits (ahead : List Piece) : Except Fault (Char × List Piece) := do
  let (high, rest) ← readHex ahead
  if 0xDC00 ≤ high ∧ high ≤ 0xDFFF then .error (.after .loneSurrogate rest)
  else if high < 0xD800 ∨ 0xDBFF < high then .ok (Char.ofNat high, rest)
  else
    let rest ← readPairLink '\\' rest
    let rest ← readPairLink 'u' rest
    let (low, rest) ← readHex rest
    if low < 0xDC00 ∨ 0xDFFF < low then .error (.after .loneSurrogate rest)
    else .ok (Char.ofNat (0x10000 + (high - 0xD800) * 1024 + (low - 0xDC00)), rest)

/-- The character that a one-letter escape stands for. -/
def simpleEscape? (c : Char) : Option Char :=
  if c = '"' then some '"'
  else if c = '\\' then some '\\'
  else if c = '/' then some '/'
  else if c = 'b' then some '\x08'
  else if c = 'f' then some '\x0c'
  else if c = 'n' then some '\n'
  else if c = 'r' then some '\r'
  else if c = 't' then some '\t'
  else none

/-- Takes an escape after its backslash. -/
def readEscape : List Piece → Result Char
  | [] => .error (.after .endOfString [])
  | .char c :: rest =>
    match simpleEscape? c with
    | some written => .ok (written, rest)
    | none => if c = 'u' then readCodeUnits rest else .error (.peeking .badEscape (.char c :: rest))
  | .stray b :: rest => .error (.peeking .badEscape (.stray b :: rest))

/--
Takes a string after its opening quote; the characters read come last first. A stray byte is a fault only once the
string is closed, and then it is the place of the first one.
-/
def readChars : (budget : Nat) → (read : List Char) → (stray : Option (List Piece)) → List Piece → Result String
  | 0, _, _, ahead => .error (.after .endOfString ahead)
  | budget + 1, read, stray, ahead =>
    match ahead with
    | [] => .error (.after .endOfString [])
    | .stray b :: rest => readChars budget read (stray <|> some (.stray b :: rest)) rest
    | .char c :: rest =>
      if c = '"' then
        match stray with
        | none => .ok (String.ofList read.reverse, rest)
        | some first => .error (.peeking .strayBytes first)
      else if c = '\\' then
        match readEscape rest with
        | .error fault => .error fault
        | .ok (written, rest) => readChars budget (written :: read) stray rest
      else if c.toNat < 32 then .error (.after .controlCharacter rest)
      else readChars budget (c :: read) stray rest

/-- Takes a string after its opening quote. -/
def readText (budget : Nat) (ahead : List Piece) : Result String := readChars budget [] none ahead

/-! ## Numbers -/

/-- The greatest significand that is kept. -/
def greatestSignificand : Nat := 18446744073709551615

/-- The greatest exponent that is kept. -/
def greatestExponent : Nat := 2147483647

/-- The digit that the pieces begin with, and the rest. -/
def digit? : List Piece → Option (Nat × List Piece)
  | .char c :: rest => if isDigit c then some (digitValue c, rest) else none
  | _ => none

/-- Takes digits without keeping them, and counts them. -/
def dropDigits (count : Nat) : List Piece → Nat × List Piece
  | .char c :: rest => if isDigit c then dropDigits (count + 1) rest else (count, .char c :: rest)
  | ahead => (count, ahead)

/-- Takes digits into a number up to a greatest one; from the first digit that does not fit they are only counted. -/
def takeDigits (greatest : Nat) (number taken : Nat) : List Piece → Nat × Nat × Nat × List Piece
  | .char c :: rest =>
    if isDigit c then
      if greatest < 10 * number + digitValue c then
        let (dropped, rest) := dropDigits 1 rest
        (number, taken, dropped, rest)
      else takeDigits greatest (10 * number + digitValue c) (taken + 1) rest
    else (number, taken, 0, .char c :: rest)
  | ahead => (number, taken, 0, ahead)

/-- A number as written: its sign, its significand, and the power of ten that the significand is to be scaled by. -/
structure Numeral where
  positive : Bool
  significand : Nat
  scale : Int

/-- The number that a numeral with a fraction or an exponent writes. -/
def Numeral.float (n : Numeral) (rest : List Piece) : Result Json :=
  match Binary64.ofDecimal (!n.positive) n.significand n.scale with
  | some x => .ok (.float x, rest)
  | none => .error (.after .numberTooLarge rest)

/-- The number that a numeral of digits only writes: an integer of 64 bits, or else a float. -/
def Numeral.whole (n : Numeral) (rest : List Piece) : Result Json :=
  if n.positive then .ok (.integer n.significand, rest)
  else if n.significand = 0 ∨ 9223372036854775808 < n.significand then n.float rest
  else .ok (.integer (-n.significand), rest)

/-- Takes an exponent after its letter. -/
def readExponent (n : Numeral) (ahead : List Piece) : Result Json :=
  let (positive, ahead) := match ahead with
    | .char '+' :: rest => (true, rest)
    | .char '-' :: rest => (false, rest)
    | _ => (true, ahead)
  match ahead with
  | [] => .error (.after .endOfValue [])
  | next :: rest =>
    match digit? (next :: rest) with
    | none => .error (.peeking .badNumber (next :: rest))
    | some (first, rest) =>
      let (exponent, taken, dropped, after) := takeDigits greatestExponent first 0 rest
      if dropped = 0 then
        { n with scale := if positive then n.scale + exponent else n.scale - exponent }.float after
      else if n.significand ≠ 0 ∧ positive then .error ⟨.numberTooLarge, rest, taken + 1⟩
      else { n with significand := 0, scale := 0 }.float after

/-- Takes what may follow the digits of a number whose value is a float. -/
def readScale (n : Numeral) : List Piece → Result Json
  | .char 'e' :: rest => readExponent n rest
  | .char 'E' :: rest => readExponent n rest
  | ahead => n.float ahead

/-- Takes the digits after a decimal point; those that do not fit are dropped. -/
def readFraction (n : Numeral) (ahead : List Piece) : Result Json :=
  match digit? ahead with
  | none => .error (.peeking (if ahead.isEmpty then .endOfValue else .badNumber) ahead)
  | some _ =>
    let (significand, taken, _, rest) := takeDigits greatestSignificand n.significand 0 ahead
    readScale { n with significand := significand, scale := n.scale - taken } rest

/-- Takes what may follow the whole part of a number, of which `dropped` digits did not fit. -/
def readTail (n : Numeral) (dropped : Nat) (ahead : List Piece) : Result Json :=
  match ahead with
  | .char '.' :: rest => readFraction { n with scale := dropped } rest
  | .char 'e' :: rest => readExponent { n with scale := dropped } rest
  | .char 'E' :: rest => readExponent { n with scale := dropped } rest
  | _ => if dropped = 0 then n.whole ahead else { n with scale := dropped }.float ahead

/-- Takes a number after its sign. -/
def readNumber (positive : Bool) (ahead : List Piece) : Result Json :=
  match ahead with
  | [] => .error (.after .endOfValue [])
  | next :: rest =>
    match digit? (next :: rest) with
    | none => .error (.peeking .badNumber (next :: rest))
    | some (0, rest) =>
      if (digit? rest).isSome then .error (.peeking .badNumber rest) else readTail ⟨positive, 0, 0⟩ 0 rest
    | some (first, rest) =>
      let (significand, _, dropped, rest) := takeDigits greatestSignificand first 1 rest
      readTail ⟨positive, significand, 0⟩ dropped rest

/-! ## Values -/

/-- Takes the colon after a key. -/
def readColon (ahead : List Piece) : Except Fault (List Piece) :=
  match skipBlanks ahead with
  | [] => .error (.peeking .endOfObject [])
  | .char ':' :: rest => .ok rest
  | ahead => .error (.peeking .colonExpected ahead)

/-- What comes next in a list or in an object. -/
inductive Next where
  /-- The closing bracket, with what is after it. -/
  | closed (rest : List Piece)
  /-- Another item or key, which is ahead. -/
  | more (ahead : List Piece)

/-- Takes what stands before the next item of a list. -/
def nextItem (first : Bool) (ahead : List Piece) : Except Fault Next :=
  match skipBlanks ahead with
  | [] => .error (.peeking .endOfList [])
  | .char ']' :: rest => .ok (.closed rest)
  | next :: rest =>
    if first then .ok (.more (next :: rest))
    else if next = .char ',' then
      match skipBlanks rest with
      | [] => .error (.peeking .endOfValue [])
      | .char ']' :: rest => .error (.peeking .trailingComma (.char ']' :: rest))
      | ahead => .ok (.more ahead)
    else .error (.peeking .listEndExpected (next :: rest))

/-- Takes what stands before the key of the next member of an object, and the quote that opens the key. -/
def nextKey (first : Bool) (ahead : List Piece) : Except Fault Next :=
  match skipBlanks ahead with
  | [] => .error (.peeking .endOfObject [])
  | .char '\x7d' :: rest => .ok (.closed rest)
  | next :: rest =>
    if first then
      if next = .char '"' then .ok (.more rest) else .error (.peeking .keyExpected (next :: rest))
    else if next = .char ',' then
      match skipBlanks rest with
      | [] => .error (.peeking .endOfValue [])
      | .char '"' :: rest => .ok (.more rest)
      | .char '\x7d' :: rest => .error (.peeking .trailingComma (.char '\x7d' :: rest))
      | ahead => .error (.peeking .keyExpected ahead)
    else .error (.peeking .objectEndExpected (next :: rest))

mutual

/-- Takes any value; `levels` more brackets may be opened. -/
def readJson : (budget levels : Nat) → List Piece → Result Json
  | 0, _, ahead => .error (.after .endOfValue ahead)
  | budget + 1, levels, ahead =>
    match skipBlanks ahead with
    | [] => .error (.peeking .endOfValue [])
    | .stray b :: rest => .error (.peeking .valueExpected (.stray b :: rest))
    | .char c :: rest =>
      if c = 'n' then (readWord ['u', 'l', 'l'] rest).map fun rest => (.null, rest)
      else if c = 't' then (readWord ['r', 'u', 'e'] rest).map fun rest => (.bool true, rest)
      else if c = 'f' then (readWord ['a', 'l', 's', 'e'] rest).map fun rest => (.bool false, rest)
      else if c = '-' then readNumber false rest
      else if isDigit c then readNumber true (.char c :: rest)
      else if c = '"' then (readText budget rest).map fun (s, rest) => (.string s, rest)
      else if c = '[' then
        match levels with
        | 0 => .error (.peeking .tooDeep (.char c :: rest))
        | levels + 1 => readItems budget levels [] true rest
      else if c = '\x7b' then
        match levels with
        | 0 => .error (.peeking .tooDeep (.char c :: rest))
        | levels + 1 => readMembers budget levels [] true rest
      else .error (.peeking .valueExpected (.char c :: rest))

/-- Takes the items of a list after its bracket; those read come last first. -/
def readItems : (budget levels : Nat) → List Json → (first : Bool) → List Piece → Result Json
  | 0, _, _, _, ahead => .error (.after .endOfList ahead)
  | budget + 1, levels, read, first, ahead =>
    match nextItem first ahead with
    | .error fault => .error fault
    | .ok (.closed rest) => .ok (.array read.reverse, rest)
    | .ok (.more ahead) =>
      match readJson budget levels ahead with
      | .error fault => .error fault
      | .ok (item, rest) => readItems budget levels (item :: read) false rest

/-- Takes the members of an object after its bracket; those read come last first. -/
def readMembers : (budget levels : Nat) → List (String × Json) → (first : Bool) → List Piece → Result Json
  | 0, _, _, _, ahead => .error (.after .endOfObject ahead)
  | budget + 1, levels, read, first, ahead =>
    match nextKey first ahead with
    | .error fault => .error fault
    | .ok (.closed rest) => .ok (.ofMembers read.reverse, rest)
    | .ok (.more ahead) =>
      match readText budget ahead with
      | .error fault => .error fault
      | .ok (key, rest) =>
        match readColon rest with
        | .error fault => .error fault
        | .ok rest =>
          match readJson budget levels rest with
          | .error fault => .error fault
          | .ok (value, rest) => readMembers budget levels ((key, value) :: read) false rest

end

/-! ## Whole texts -/

/-- The number of brackets that may be open at once in a message. -/
def depthLimit : Nat := 127

/-- A budget of steps that suffices for a text. -/
def budget (pieces : List Piece) : Nat := 2 * pieces.length + 2

/-- A reader of values, given a budget and the number of brackets that may still be opened. -/
abbrev Reader (α : Type) := (budget levels : Nat) → List Piece → Result α

/-- Reads bytes that hold one value and blanks. -/
def Reader.run {α : Type} (reader : Reader α) (levels : Nat) (bytes : List UInt8) : Except String α :=
  let pieces := Text.decode bytes
  match reader (budget pieces) levels pieces with
  | .error fault => .error (fault.message bytes)
  | .ok (value, rest) =>
    match skipBlanks rest with
    | [] => .ok value
    | ahead => .error ((Fault.peeking .trailingText ahead).message bytes)

/-- Reads bytes as one value of any kind. -/
def ofBytes (bytes : List UInt8) : Except String Json := Reader.run readJson depthLimit bytes

end Json

end FocusJournal
