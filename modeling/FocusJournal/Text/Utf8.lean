/-!
# UTF-8

Characters as bytes and bytes as characters. A message arrives as bytes of which nothing is known, so reading yields
pieces: a piece is a character, or a stray byte that belongs to no character.

* `encode` writes characters, `decode` reads any bytes as pieces and loses none.
* `text?` is the text of bytes without a stray byte.
-/

namespace FocusJournal.Text

/-- One unit of a byte sequence read as UTF-8. -/
inductive Piece where
  /-- A character and the bytes that write it. -/
  | char (c : Char)
  /-- A byte that no character accounts for. -/
  | stray (b : UInt8)
  deriving DecidableEq

/-- The bytes that write a character. -/
def encodeChar (c : Char) : List UInt8 :=
  let n := c.toNat
  if n < 0x80 then [UInt8.ofNat n]
  else if n < 0x800 then [UInt8.ofNat (0xC0 + n / 64), UInt8.ofNat (0x80 + n % 64)]
  else if n < 0x10000 then
    [UInt8.ofNat (0xE0 + n / 4096), UInt8.ofNat (0x80 + n / 64 % 64), UInt8.ofNat (0x80 + n % 64)]
  else
    [UInt8.ofNat (0xF0 + n / 262144), UInt8.ofNat (0x80 + n / 4096 % 64), UInt8.ofNat (0x80 + n / 64 % 64),
      UInt8.ofNat (0x80 + n % 64)]

/-- The bytes that write a text. -/
def encode (cs : List Char) : List UInt8 := cs.flatMap encodeChar

/-- The number of bytes that write a character. -/
def charSize (c : Char) : Nat :=
  if c.toNat < 0x80 then 1 else if c.toNat < 0x800 then 2 else if c.toNat < 0x10000 then 3 else 4

/-- The number of bytes of a piece. -/
def Piece.size : Piece → Nat
  | .char c => charSize c
  | .stray _ => 1

/-- The bytes of a piece. -/
def Piece.bytes : Piece → List UInt8
  | .char c => encodeChar c
  | .stray b => [b]

/-- The low six bits of a continuation byte. -/
def continuation? (b : UInt8) : Option Nat :=
  if 0x80 ≤ b.toNat ∧ b.toNat < 0xC0 then some (b.toNat - 0x80) else none

/-- The character with a code point of at least `least`, when there is one. -/
def charFrom? (least code : Nat) : Option Char :=
  if least ≤ code ∧ code.isValidChar then some (Char.ofNat code) else none

/-- The character that the bytes begin with, in its shortest form. -/
def leadingChar? : List UInt8 → Option Char
  | [] => none
  | a :: rest =>
    let lead := a.toNat
    if lead < 0x80 then some (Char.ofNat lead)
    else if lead < 0xC0 then none
    else match rest with
    | [] => none
    | b :: rest =>
      match continuation? b with
      | none => none
      | some b =>
        if lead < 0xE0 then charFrom? 0x80 ((lead - 0xC0) * 64 + b)
        else match rest with
        | [] => none
        | c :: rest =>
          match continuation? c with
          | none => none
          | some c =>
            if lead < 0xF0 then charFrom? 0x800 ((lead - 0xE0) * 4096 + b * 64 + c)
            else match rest with
            | [] => none
            | d :: _ =>
              match continuation? d with
              | none => none
              | some d =>
                if lead < 0xF8 then charFrom? 0x10000 ((lead - 0xF0) * 262144 + b * 4096 + c * 64 + d)
                else none

/-- Reads bytes as pieces after those already read, which come last first; `owed` bytes belong to the last piece. -/
def decodeOnto (read : List Piece) : (owed : Nat) → List UInt8 → List Piece
  | _, [] => read.reverse
  | owed + 1, _ :: rest => decodeOnto read owed rest
  | 0, b :: rest =>
    match leadingChar? (b :: rest) with
    | some c => decodeOnto (.char c :: read) (charSize c - 1) rest
    | none => decodeOnto (.stray b :: read) 0 rest

/-- The pieces of a byte sequence, in order. -/
def decode (bytes : List UInt8) : List Piece := decodeOnto [] 0 bytes

/-- The character of a piece that is one. -/
def Piece.char? : Piece → Option Char
  | .char c => some c
  | .stray _ => none

/-- The text that bytes write, unless some byte is stray. -/
def text? (bytes : List UInt8) : Option (List Char) :=
  (decode bytes).mapM Piece.char?

/-- The bytes that write a string. -/
def bytesOf (s : String) : List UInt8 := encode s.toList

end FocusJournal.Text
