/-!
# Binary64 numbers

Finite numbers with 53 significant bits, held exactly as a sign and `significand · 2 ^ exponent`. Every operation is the
exact result rounded once, to nearest with ties to even; `none` stands for a result too large to be finite.

* `nearest` rounds a quotient of natural numbers.
* `ofDecimal` gives a decimal numeral its value.
-/

namespace FocusJournal

/-- A finite number: `significand * 2 ^ exponent`, with a sign that zero has too. -/
structure Binary64 where
  /-- The sign is minus. -/
  negative : Bool
  /-- Less than `2 ^ 53`, and at least `2 ^ 52` unless the exponent is the least one. -/
  significand : Nat
  /-- Between `-1074` and `971`. -/
  exponent : Int
  deriving DecidableEq

namespace Binary64

/-- The least exponent, that of the smallest numbers. -/
def leastExponent : Int := -1074

/-- The greatest exponent of a finite number. -/
def greatestExponent : Int := 971

/-- Zero without a sign. -/
def zero : Binary64 := ⟨false, 0, leastExponent⟩

/-- Either zero. -/
def isZero (x : Binary64) : Bool := x.significand == 0

/-- The fraction `num / den * 2 ^ (-shift)` as numerator and denominator. -/
def scaled (num den : Nat) (shift : Int) : Nat × Nat :=
  match shift with
  | .ofNat k => (num, den * Nat.pow 2 k)
  | .negSucc k => (num * Nat.pow 2 (k + 1), den)

/-- The whole number nearest to a fraction, the even one of two. -/
def roundEven (num den : Nat) : Nat :=
  let whole := num / den
  let twice := 2 * (num % den)
  if twice < den then whole
  else if den < twice then whole + 1
  else whole + whole % 2

/-- The exponent of the highest binary digit of a positive fraction. -/
def magnitude (num den : Nat) : Int :=
  let guess := (Nat.log2 num : Int) - (Nat.log2 den : Int)
  let (n, d) := scaled num den guess
  if n < d then guess - 1 else guess

/-- The number nearest to a fraction. -/
def nearest (negative : Bool) (num den : Nat) : Option Binary64 :=
  if num = 0 then some ⟨negative, 0, leastExponent⟩
  else
    let exponent := max leastExponent (magnitude num den - 52)
    let (n, d) := scaled num den exponent
    let significand := roundEven n d
    let (significand, exponent) :=
      if significand = Nat.pow 2 53 then (Nat.pow 2 52, exponent + 1) else (significand, exponent)
    if greatestExponent < exponent then none else some ⟨negative, significand, exponent⟩

/-- A number without its sign as a fraction. -/
def fraction (x : Binary64) : Nat × Nat := scaled x.significand 1 (-x.exponent)

/-- The rounded product. -/
def mul (x y : Binary64) : Option Binary64 :=
  let (a, b) := x.fraction
  let (c, d) := y.fraction
  nearest (x.negative != y.negative) (a * c) (b * d)

/-- The rounded quotient by a number other than zero. -/
def div (x y : Binary64) : Option Binary64 :=
  let (a, b) := x.fraction
  let (c, d) := y.fraction
  nearest (x.negative != y.negative) (a * d) (b * c)

/-- The natural number rounded. -/
def ofNat (n : Nat) : Option Binary64 := nearest false n 1

/-- The greatest power of ten that is finite. -/
def greatestPower : Nat := 308

/-- The power of ten rounded. -/
def powerOfTen (k : Nat) : Binary64 := (ofNat (Nat.pow 10 k)).getD zero

/-- The number after its decimal point moved to the left, by steps of at most the greatest power of ten. -/
def moveLeft (x : Binary64) (places : Nat) : Binary64 :=
  if places ≤ greatestPower then (x.div (powerOfTen places)).getD zero
  else if x.isZero then x
  else moveLeft ((x.div (powerOfTen greatestPower)).getD zero) (places - greatestPower)
termination_by places
decreasing_by simp only [greatestPower] at *; omega

/-- The value of `significand * 10 ^ exponent`: the significand is rounded first, the power of ten applied to that. -/
def ofDecimal (negative : Bool) (significand : Nat) (exponent : Int) : Option Binary64 :=
  let unsigned : Option Binary64 :=
    match ofNat significand, exponent with
    | none, _ => none
    | some x, .ofNat k =>
      if k ≤ greatestPower then x.mul (powerOfTen k) else if x.isZero then some x else none
    | some x, .negSucc k => some (x.moveLeft (k + 1))
  unsigned.map fun x => { x with negative := negative }

end Binary64

end FocusJournal
