import FocusJournal.Decimal.Binary64
import FocusJournal.Text.Numeral

/-!
# The shortest decimal form

The fewest digits that are read back as the same binary64 number, and of those the nearest. `interval` holds the reals
that round to a number; a grid of `n` digits is tried for `n = 1, 2, …, 17`, and on it the two neighbours of the number.

* `shortest` gives digits and the exponent of the first one.
* `Notation.text` writes them: positional for middle exponents and scientific for the rest.
-/

namespace FocusJournal.Decimal

/-- `digits * 10 ^ exponent`, without a trailing zero in the digits. -/
structure Digits where
  digits : Nat
  exponent : Int
  deriving DecidableEq

/-- The reals that round to a number without its sign: `low / den` to `high / den`, the ends included if `closed`. -/
structure Interval where
  low : Nat
  value : Nat
  high : Nat
  den : Nat
  closed : Bool

/-- The reals that round to a number other than zero, its sign apart. -/
def interval (x : Binary64) : Interval :=
  let (num, den) := Binary64.scaled 1 4 (-x.exponent)
  let below := if x.significand = Nat.pow 2 52 ∧ Binary64.leastExponent < x.exponent then 1 else 2
  { low := (4 * x.significand - below) * num
    value := 4 * x.significand * num
    high := (4 * x.significand + 2) * num
    den := den
    closed := x.significand % 2 = 0 }

/-- Whether `num / den` lies in the interval. -/
def Interval.contains (i : Interval) (num den : Nat) : Bool :=
  let above := compare (i.low * den) (num * i.den)
  let below := compare (num * i.den) (i.high * den)
  (above == .lt || (i.closed && above == .eq)) && (below == .lt || (i.closed && below == .eq))

/-- The exponent of the first decimal digit of a positive fraction, from an estimate that is not too high. -/
def leadingExponent (num den : Nat) : (tries : Nat) → Int → Int
  | 0, guess => guess
  | tries + 1, guess =>
    let (n, d) := match guess + 1 with
      | .ofNat k => (num, den * Nat.pow 10 k)
      | .negSucc k => (num * Nat.pow 10 (k + 1), den)
    if d ≤ n then leadingExponent num den tries (guess + 1) else guess

/-- The exponent of the first decimal digit of a positive number. -/
def decimalMagnitude (num den : Nat) : Int :=
  leadingExponent num den 4 (Binary64.magnitude num den * 30103 / 100000 - 2)

/-- The nearest of the two neighbours with `count` digits that lie in the interval, the even one of two. -/
def onGrid (i : Interval) (magnitude : Int) (count : Nat) : Option Digits :=
  let unit : Int := magnitude + 1 - count
  let (num, den) := match unit with
    | .ofNat k => (i.value, i.den * Nat.pow 10 k)
    | .negSucc k => (i.value * Nat.pow 10 (k + 1), i.den)
  let fits (n : Nat) : Bool := match unit with
    | .ofNat k => i.contains (n * Nat.pow 10 k) 1
    | .negSucc k => i.contains n (Nat.pow 10 (k + 1))
  let lower := num / den
  let upper := lower + 1
  match decide (0 < lower) && fits lower, fits upper with
  | false, false => none
  | true, false => some ⟨lower, unit⟩
  | false, true => some ⟨upper, unit⟩
  | true, true => some ⟨Binary64.roundEven num den, unit⟩

/-- Trailing zeros of the digits moved into the exponent. -/
def trimmed : (tries : Nat) → Digits → Digits
  | 0, d => d
  | tries + 1, d => if d.digits % 10 = 0 then trimmed tries ⟨d.digits / 10, d.exponent + 1⟩ else d

/-- The shortest digits that are read back as a number other than zero, its sign apart. -/
def shortest (x : Binary64) : Digits :=
  let i := interval x
  let magnitude := decimalMagnitude i.value i.den
  let found := (List.range 17).findSome? fun n => onGrid i magnitude (n + 1)
  trimmed 20 (found.getD ⟨0, 0⟩)

/-- How digits are laid out. -/
structure Layout where
  /-- The least exponent of the first digit that is written positionally. -/
  least : Int
  /-- The greatest exponent of the first digit that is written positionally. -/
  greatest : Int
  /-- The least number of digits of a written exponent. -/
  exponentWidth : Nat

/-- Numbers from `1e-5` to below `1e16` are positional; other exponents have a sign and two digits. -/
def Layout.standard : Layout := ⟨-5, 15, 2⟩

/-- The exponent with its sign, padded with zeros. -/
def Layout.exponentChars (l : Layout) (exponent : Int) : List Char :=
  let digits := Text.naturalDigits exponent.natAbs
  (if exponent < 0 then '-' else '+') :: (List.replicate (l.exponentWidth - digits.length) '0' ++ digits)

/-- The digits laid out, with at least one digit on each side of a positional point. -/
def Layout.chars (l : Layout) (d : Digits) : List Char :=
  let digits := Text.naturalDigits d.digits
  let first : Int := d.exponent + digits.length - 1
  if l.least ≤ first ∧ first ≤ l.greatest then
    match first with
    | .ofNat k =>
      let whole := digits.take (k + 1) ++ List.replicate (k + 1 - digits.length) '0'
      let rest := digits.drop (k + 1)
      whole ++ '.' :: (if rest.isEmpty then ['0'] else rest)
    | .negSucc k => '0' :: '.' :: (List.replicate k '0' ++ digits)
  else
    let rest := digits.drop 1
    digits.take 1 ++ (if rest.isEmpty then [] else '.' :: rest) ++ 'e' :: l.exponentChars first

/-- The shortest decimal text that is read back as the number. -/
def text (x : Binary64) : List Char :=
  let unsigned := if x.isZero then ['0', '.', '0'] else Layout.standard.chars (shortest x)
  if x.negative then '-' :: unsigned else unsigned

end FocusJournal.Decimal
