import FocusJournal.Json.Reader

/-!
# Skipping JSON text

A value under a key that is not wanted is passed over without being built. Skipping keeps the open brackets in a list,
so there is no limit to their number, and it looks at the form of the text only: the size of a number, the pairs in an
escape and the bytes of a string are not examined.

* `Json.skip` passes over one value.
-/

namespace FocusJournal

open Text (Piece)

namespace Json

/-- Passes over a string after its opening quote. -/
def skipText : (budget : Nat) → List Piece → Except Fault (List Piece)
  | 0, ahead => .error (.after .endOfString ahead)
  | budget + 1, ahead =>
    match ahead with
    | [] => .error (.after .endOfString [])
    | .stray _ :: rest => skipText budget rest
    | .char c :: rest =>
      if c = '"' then .ok rest
      else if c = '\\' then
        match rest with
        | [] => .error (.after .endOfString [])
        | .char 'u' :: digits =>
          match readHex digits with
          | .error fault => .error fault
          | .ok (_, rest) => skipText budget rest
        | .char letter :: rest =>
          if (simpleEscape? letter).isSome then skipText budget rest
          else .error (.peeking .badEscape (.char letter :: rest))
        | .stray b :: rest => .error (.peeking .badEscape (.stray b :: rest))
      else if c.toNat < 32 then .error (.after .controlCharacter ahead)
      else skipText budget rest

/-- Passes over an exponent after its letter. -/
def skipExponent (ahead : List Piece) : Except Fault (List Piece) :=
  let ahead := match ahead with
    | .char '+' :: rest => rest
    | .char '-' :: rest => rest
    | _ => ahead
  match digit? ahead with
  | none => .error (.peeking .badNumber ahead)
  | some (_, rest) => .ok (dropDigits 0 rest).2

/-- Passes over what may follow the whole part of a number. -/
def skipTail (ahead : List Piece) : Except Fault (List Piece) :=
  match ahead with
  | .char '.' :: rest =>
    match dropDigits 0 rest with
    | (0, ahead) => .error (.peeking .badNumber ahead)
    | (_, .char 'e' :: rest) => skipExponent rest
    | (_, .char 'E' :: rest) => skipExponent rest
    | (_, ahead) => .ok ahead
  | .char 'e' :: rest => skipExponent rest
  | .char 'E' :: rest => skipExponent rest
  | _ => .ok ahead

/-- Passes over a number after its sign. -/
def skipNumber (ahead : List Piece) : Except Fault (List Piece) :=
  match digit? ahead with
  | none => .error (.peeking .badNumber ahead)
  | some (0, rest) => if (digit? rest).isSome then .error (.peeking .badNumber rest) else skipTail rest
  | some (_, rest) => skipTail (dropDigits 0 rest).2

/-- A bracket that is open. -/
inductive Bracket where
  | list
  | object

/-- The closing character of a bracket. -/
def Bracket.closing : Bracket → Char
  | .list => ']'
  | .object => '\x7d'

/-- The fault of a text that ends inside a bracket. -/
def Bracket.endFault : Bracket → Fault.Cause
  | .list => .endOfList
  | .object => .endOfObject

/-- The fault of a value in a bracket that neither a comma nor the closing character follows. -/
def Bracket.commaFault : Bracket → Fault.Cause
  | .list => .listEndExpected
  | .object => .objectEndExpected

/-- Passes over a key with its quotes and its colon. -/
def skipKey (budget : Nat) (ahead : List Piece) : Except Fault (List Piece) :=
  match skipBlanks ahead with
  | [] => .error (.peeking .endOfObject [])
  | .char '"' :: rest => skipText budget rest >>= readColon
  | ahead => .error (.peeking .keyExpected ahead)

/-- What a skipping reader stands before. -/
inductive Standing where
  /-- A value. -/
  | value
  /-- The first item or key of the innermost bracket, or its end. -/
  | opened
  /-- A comma or the end of the innermost bracket. -/
  | between

/-- Passes over text until every bracket is closed, the innermost of which comes first. -/
def skipOpen : (budget : Nat) → Standing → List Bracket → List Piece → Except Fault (List Piece)
  | 0, _, _, ahead => .error (.after .endOfValue ahead)
  | _ + 1, .opened, [], ahead => .ok ahead
  | _ + 1, .between, [], ahead => .ok ahead
  | budget + 1, .value, brackets, ahead =>
    match skipBlanks ahead with
    | [] => .error (.peeking .endOfValue [])
    | .stray b :: rest => .error (.peeking .valueExpected (.stray b :: rest))
    | .char c :: rest =>
      if c = '[' then skipOpen budget .opened (.list :: brackets) rest
      else if c = '\x7b' then skipOpen budget .opened (.object :: brackets) rest
      else
        let scalar :=
          if c = 'n' then readWord ['u', 'l', 'l'] rest
          else if c = 't' then readWord ['r', 'u', 'e'] rest
          else if c = 'f' then readWord ['a', 'l', 's', 'e'] rest
          else if c = '-' then skipNumber rest
          else if Text.isDigit c then skipNumber (.char c :: rest)
          else if c = '"' then skipText budget rest
          else .error (.peeking .valueExpected (.char c :: rest))
        match scalar with
        | .error fault => .error fault
        | .ok rest => skipOpen budget .between brackets rest
  | budget + 1, standing, bracket :: brackets, ahead =>
    let enter (ahead : List Piece) : Except Fault (List Piece) :=
      match bracket with
      | .list => .ok ahead
      | .object => skipKey budget ahead
    match skipBlanks ahead with
    | [] => .error (.peeking bracket.endFault [])
    | next :: rest =>
      if next = Piece.char bracket.closing then skipOpen budget .between brackets rest
      else
        let entered := match standing with
          | .opened => enter (next :: rest)
          | _ => if next = Piece.char ',' then enter rest else .error (.peeking bracket.commaFault (next :: rest))
        match entered with
        | .error fault => .error fault
        | .ok ahead => skipOpen budget .value (bracket :: brackets) ahead

/-- Passes over one value. -/
def skip (budget : Nat) (ahead : List Piece) : Except Fault (List Piece) := skipOpen budget .value [] ahead

end Json

end FocusJournal
