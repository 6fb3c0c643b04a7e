import FocusJournal.Text.Escaped
import FocusJournal.Text.Numeral
import FocusJournal.Url.Domain

/-!
# Network addresses

An address of four bytes is written as up to four numbers between dots, in decimal, octal or hexadecimal notation, of
which the last one fills the bytes that are left. An address of eight words is written in hexadecimal between colons,
with one run of zeros left out.

* `Address.ofDotted?` and `Address.ofColons?` read addresses, `Address.dotted` and `Address.colons` write them.
-/

namespace FocusJournal.Url.Address

/-- The value of a digit, in any notation. -/
def digitValue? (c : Char) : Option Nat :=
  let n := c.toNat
  if 48 ≤ n ∧ n ≤ 57 then some (n - 48)
  else if 97 ≤ n ∧ n ≤ 102 then some (n - 87)
  else if 65 ≤ n ∧ n ≤ 70 then some (n - 55)
  else none

/-- The number that digits of a base write; no digits write zero. -/
def ofDigits? (base : Nat) (cs : List Char) : Option Nat :=
  cs.foldlM (fun sum c =>
    match digitValue? c with
    | some d => if d < base then some (base * sum + d) else none
    | none => none) 0

/-- The number of a part of a dotted address: hexadecimal after `0x`, octal after `0`, else decimal. -/
def part? : List Char → Option Nat
  | [] => none
  | '0' :: 'x' :: digits => ofDigits? 16 digits
  | '0' :: 'X' :: digits => ofDigits? 16 digits
  | '0' :: digit :: digits => ofDigits? 8 (digit :: digits)
  | digits => ofDigits? 10 digits

/-- The parts of a dotted name, without the empty one that a dot at its end leaves. -/
def parts (name : List Char) : List (List Char) :=
  let all := splitAll '.' name
  if all.getLast? = some [] then all.dropLast else all

/-- Whether the last part of a name is a number, so that the name must be an address. -/
def endsInNumber (name : List Char) : Bool :=
  match (parts name).getLast? with
  | none => false
  | some last => (!last.isEmpty && last.all Text.isDigit) || (part? last).isSome

/-- The value of the bytes before the last part, with the number of bytes that are left. -/
def leadingBytes? (numbers : List Nat) : Option (Nat × Nat) :=
  numbers.foldlM (fun (sum, left) n =>
    if n < 256 then some (sum + n * Nat.pow 256 (left - 1), left - 1) else none) (0, 4)

/-- The four bytes of a dotted name, as one number. -/
def ofDotted? (name : List Char) : Option Nat := do
  let numbers ← if 4 < (parts name).length then none else (parts name).mapM part?
  let last ← numbers.getLast?
  let (sum, left) ← leadingBytes? numbers.dropLast
  if last < Nat.pow 256 left then some (sum + last) else none

/-- The four bytes of a number between dots. -/
def dotted (address : Nat) : List Char :=
  List.intercalate ['.'] ([address / 16777216, address / 65536 % 256, address / 256 % 256, address % 256].map
    Text.naturalDigits)

/-- One byte of a dotted address that ends an address of words: a number below 256 without zeros in front. -/
def byte? (digits : List Char) : Option Nat :=
  if digits.length ≤ 3 ∧ (digits.head? ≠ some '0' ∨ digits.length = 1) then
    (Text.natural? digits).bind fun n => if n < 256 then some n else none
  else none

/-- The two words that four bytes between dots write. -/
def trailingWords? (cs : List Char) : Option (List Nat) := do
  match ← (splitAll '.' cs).mapM byte? with
  | [a, b, c, d] => some [256 * a + b, 256 * c + d]
  | _ => none

/-- The word that up to four hexadecimal digits write. -/
def word? (cs : List Char) : Option Nat :=
  if cs.isEmpty || 4 < cs.length then none else ofDigits? 16 cs

/-- The words between colons, of which the last two may be written as bytes. -/
def words? (cs : List Char) : Option (List Nat) :=
  let pieces := splitAll ':' cs
  match pieces.getLast? with
  | none => none
  | some last =>
    if last.contains '.' then do
      let leading ← pieces.dropLast.mapM word?
      let trailing ← trailingWords? last
      some (leading ++ trailing)
    else pieces.mapM word?

/-- The words on one side of the zeros left out; there may be none. -/
def sideWords? (cs : List Char) : Option (List Nat) := if cs.isEmpty then some [] else words? cs

/-- What is written before and after the first two colons in a row. -/
def splitGap? : List Char → Option (List Char × List Char)
  | ':' :: ':' :: rest => some ([], rest)
  | c :: rest => (splitGap? rest).map fun (before, after) => (c :: before, after)
  | [] => none

/-- The eight words of an address. -/
def ofColons? (cs : List Char) : Option (List Nat) :=
  match splitGap? cs with
  | none => (words? cs).bind fun words => if words.length = 8 then some words else none
  | some (before, after) => do
    let leading ← if before.contains '.' then none else sideWords? before
    let trailing ← sideWords? after
    let given := leading.length + trailing.length
    if given < 8 then some (leading ++ List.replicate (8 - given) 0 ++ trailing) else none

/-- The length of the run of zeros that words begin with. -/
def zeros (words : List Nat) : Nat := (words.takeWhile fun w => w = 0).length

/-- The first of the longest runs of zeros: its length and its place. Runs are looked for from a place on. -/
def longestZeros (place : Nat) : List Nat → Nat × Nat
  | [] => (0, place)
  | word :: words =>
    let here := zeros (word :: words)
    let later := longestZeros (place + 1) words
    if here < later.1 then later else (here, place)

/-- Words between colons. -/
def joined (words : List Nat) : List Char := List.intercalate [':'] (words.map Text.hexDigits)

/-- Eight words between colons, without the longest run of zeros if it has two or more. -/
def colons (words : List Nat) : List Char :=
  let (length, place) := longestZeros 0 words
  if length < 2 then joined words
  else joined (words.take place) ++ [':', ':'] ++ joined (words.drop (place + length))

end FocusJournal.Url.Address
