import FocusJournal.Toml.Basic
import FocusJournal.Toml.Quoted

/-!
# Numbers, times and truth values

What stands without quotes is one word: letters, digits and the signs of numbers and times. Only a date and a time of
day may be two words.

* `Scalar.ofWord?` reads a word, `readScalar` takes one from the characters ahead.
-/

namespace FocusJournal.Toml

namespace Scalar

/-! ## Numbers -/

/-- The digits of groups that single underscores separate, without the underscores. -/
def grouped? (isDigit : Char → Bool) : List Char → Option (List Char)
  | [] => none
  | [c] => if isDigit c then some [c] else none
  | c :: '_' :: rest => if isDigit c then (grouped? isDigit rest).map (c :: ·) else none
  | c :: rest => if isDigit c then (grouped? isDigit rest).map (c :: ·) else none

/-- A sign, if there is one, and the rest; no sign means plus. -/
def signed : List Char → Bool × List Char
  | '-' :: rest => (true, rest)
  | '+' :: rest => (false, rest)
  | cs => (false, cs)

/-- The digits of a whole number in decimal notation, without a leading zero. -/
def whole? (cs : List Char) : Option (List Char) :=
  match grouped? Text.isDigit cs with
  | some ('0' :: _ :: _) => none
  | digits => digits

/-- A number of 64 bits with a sign. -/
def integerOf? (n : Int) : Option Toml := if (Text.toInt64? n).isSome then some (.integer n) else none

/-- A number in another base, from the characters after the mark of that base. -/
def based? (base : Nat) (cs : List Char) : Option Toml :=
  match grouped? isDigit cs with
  | some digits => integerOf? (digits.foldl (fun (n : Nat) c => base * n + (Text.hexDigit? c).getD 0) 0 : Nat)
  | none => none
where
  isDigit (c : Char) : Bool := ((Text.hexDigit? c).map fun d => decide (d < base)).getD false

/-- An integer: in decimal notation with or without a sign, or in base 16, 8 or 2 without one. -/
def integer? : List Char → Option Toml
  | '0' :: 'x' :: rest => based? 16 rest
  | '0' :: 'o' :: rest => based? 8 rest
  | '0' :: 'b' :: rest => based? 2 rest
  | word =>
    let (negative, rest) := signed word
    match whole? rest with
    | some digits =>
      let n : Int := Text.digitsValue digits
      integerOf? (if negative then -n else n)
    | none => none

/-- The least number that rounds to infinity: halfway from the greatest finite number to the next step. -/
def leastInfinite : Nat := Nat.pow 2 1024 - Nat.pow 2 970

/-- Whether a significand scaled by a power of ten rounds to infinity. -/
def isInfinite (digits : List Char) (scale : Int) : Bool :=
  let digits := digits.dropWhile (· == '0')
  let places : Int := digits.length + scale
  if digits.isEmpty ∨ places < 309 then false
  else if 310 < places then true
  else
    let n := Text.digitsValue digits
    if 0 ≤ scale then leastInfinite ≤ n * Nat.pow 10 scale.toNat else leastInfinite * Nat.pow 10 (-scale).toNat ≤ n

/-- The digits after a point, if there is one, and what is after them. -/
def fraction? : List Char → Option (List Char × List Char)
  | '.' :: rest =>
    let written := rest.takeWhile fun c => Text.isDigit c || c == '_'
    (grouped? Text.isDigit written).map fun digits => (digits, rest.drop written.length)
  | cs => some ([], cs)

/-- The exponent that ends a number. -/
def exponent? : List Char → Option Int
  | [] => some 0
  | mark :: rest =>
    if mark = 'e' ∨ mark = 'E' then
      let (negative, rest) := signed rest
      (grouped? Text.isDigit rest).map fun digits =>
        let n : Int := Text.digitsValue digits
        if negative then -n else n
    else none

/-- A number with a fraction or an exponent; one that is too great is refused, one that is too little is not. -/
def decimal? (word : List Char) : Option Toml :=
  let (negative, rest) := signed word
  let written := rest.takeWhile fun c => Text.isDigit c || c == '_'
  let scale := rest.drop written.length
  match whole? written, fraction? scale with
  | some digits, some (places, last) =>
    match exponent? last with
    | some exponent =>
      if scale.isEmpty || !negative && isInfinite (digits ++ places) (exponent - places.length) then none
      else some (.float (String.ofList word))
    | none => none
  | _, _ => none

/-- Infinity or an undefined number. -/
def special? (word : List Char) : Option Toml :=
  let (_, rest) := signed word
  if rest = ['i', 'n', 'f'] ∨ rest = ['n', 'a', 'n'] then some (.float (String.ofList word)) else none

/-! ## Times -/

/-- A number of so many digits, and what is after it. -/
def digits? (count : Nat) (cs : List Char) : Option (Nat × List Char) :=
  let digits := cs.take count
  if digits.length = count ∧ digits.all Text.isDigit then some (Text.digitsValue digits, cs.drop count) else none

/-- The number of days in a month. -/
def daysIn (year month : Nat) : Nat :=
  if month = 2 then (if year % 4 = 0 ∧ (year % 100 ≠ 0 ∨ year % 400 = 0) then 29 else 28)
  else if month = 4 ∨ month = 6 ∨ month = 9 ∨ month = 11 then 30
  else 31

/-- What is after a date of the calendar. -/
def afterDate? (cs : List Char) : Option (List Char) := do
  let (year, rest) ← digits? 4 cs
  let rest ← if rest.head? = some '-' then some rest.tail else none
  let (month, rest) ← digits? 2 rest
  let rest ← if rest.head? = some '-' then some rest.tail else none
  let (day, rest) ← digits? 2 rest
  if 1 ≤ month ∧ month ≤ 12 ∧ 1 ≤ day ∧ day ≤ daysIn year month then some rest else none

/-- What is after hours and minutes. -/
def afterMinutes? (cs : List Char) : Option (List Char) := do
  let (hour, rest) ← digits? 2 cs
  let rest ← if rest.head? = some ':' then some rest.tail else none
  let (minute, rest) ← digits? 2 rest
  if hour ≤ 23 ∧ minute ≤ 59 then some rest else none

/-- What is after a time of day, which may be a leap second. -/
def afterTime? (cs : List Char) : Option (List Char) := do
  let rest ← afterMinutes? cs
  let rest ← if rest.head? = some ':' then some rest.tail else none
  let (second, rest) ← digits? 2 rest
  if 60 < second then none
  else if rest.head? = some '.' then
    let after := rest.tail.dropWhile Text.isDigit
    if after.length < rest.tail.length then some after else none
  else some rest

/-- Whether the characters are an offset from universal time, or none. -/
def isOffset : List Char → Bool
  | [] => true
  | mark :: rest =>
    if mark = 'Z' ∨ mark = 'z' then rest.isEmpty
    else if mark = '+' ∨ mark = '-' then afterMinutes? rest == some []
    else false

/-- Whether the characters are a time of day, perhaps with an offset. -/
def isZonedTime (cs : List Char) : Bool := ((afterTime? cs).map isOffset).getD false

/-- Whether the characters are a date. -/
def isDate (cs : List Char) : Bool := afterDate? cs == some []

/-- A time of day, a date, or a date and a time of day in one word. -/
def time? (word : List Char) : Option Toml :=
  let valid := match afterDate? word with
    | some [] => true
    | some (link :: rest) => (link == 'T' || link == 't') && isZonedTime rest
    | none => afterTime? word == some []
  if valid then some (.time (String.ofList word)) else none

/-! ## Words -/

/-- The value of a word. -/
def ofWord? (word : List Char) : Option Toml :=
  if word = ['t', 'r', 'u', 'e'] then some (.bool true)
  else if word = ['f', 'a', 'l', 's', 'e'] then some (.bool false)
  else integer? word <|> decimal? word <|> special? word <|> time? word

/-- A character of a word. -/
def isWordChar (c : Char) : Bool :=
  c.isAlphanum || c == '+' || c == '-' || c == '_' || c == '.' || c == ':'

/-- The word that the characters begin with. -/
def word (ahead : List Char) : List Char := ahead.takeWhile isWordChar

end Scalar

/-- Takes a value without quotes and brackets. -/
def readScalar (ahead : List Char) : Reading Toml :=
  let word := Scalar.word ahead
  let rest := ahead.drop word.length
  let next := Scalar.word (rest.drop 1)
  if Scalar.isDate word ∧ rest.head? = some ' ' ∧ Scalar.isZonedTime next then
    some (.time (String.ofList (word ++ ' ' :: next)), rest.drop (next.length + 1))
  else (Scalar.ofWord? word).map fun value => (value, rest)

end FocusJournal.Toml
