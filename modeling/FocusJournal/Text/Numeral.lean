/-!
# Numerals

Whole numbers in decimal notation.

* `write` gives the digits of an integer, with a minus sign below zero.
* `natural?` reads a numeral of digits only, `signed?` allows one sign before them.
-/

namespace FocusJournal.Text

/-- A decimal digit of ASCII. -/
def isDigit (c : Char) : Bool := 48 ≤ c.toNat && c.toNat ≤ 57

/-- The value of a decimal digit. -/
def digitValue (c : Char) : Nat := c.toNat - 48

/-- The value of a hexadecimal digit. -/
def hexDigit? (c : Char) : Option Nat :=
  let n := c.toNat
  if isDigit c then some (n - 48)
  else if 65 ≤ n ∧ n ≤ 70 then some (n - 55)
  else if 97 ≤ n ∧ n ≤ 102 then some (n - 87)
  else none

/-- The number that digits write, most significant first. -/
def digitsValue (cs : List Char) : Nat := cs.foldl (fun n c => 10 * n + digitValue c) 0

/-- The decimal digits of a number. -/
def naturalDigits (n : Nat) : List Char := Nat.toDigits 10 n

/-- The decimal notation of an integer. -/
def integerChars : Int → List Char
  | .ofNat n => naturalDigits n
  | .negSucc n => '-' :: naturalDigits (n + 1)

/-- The decimal notation of an integer, as a string. -/
def integerText (n : Int) : String := String.ofList (integerChars n)

/-- The number written by a non-empty text of digits. -/
def natural? (cs : List Char) : Option Nat :=
  if cs.isEmpty || !cs.all isDigit then none else some (digitsValue cs)

/-- The number written by digits, perhaps after a plus sign. -/
def unsigned? : List Char → Option Nat
  | '+' :: cs => natural? cs
  | cs => natural? cs

/-- The number written by digits, perhaps after a sign. -/
def signed? : List Char → Option Int
  | '-' :: cs => (natural? cs).map fun n => -(n : Int)
  | '+' :: cs => (natural? cs).map Int.ofNat
  | cs => (natural? cs).map Int.ofNat

/-- The integer in 64 bits with a sign, if it fits. -/
def toInt64? (n : Int) : Option Int64 :=
  if -9223372036854775808 ≤ n ∧ n ≤ 9223372036854775807 then some (Int64.ofInt n) else none

/-- The digits are those that core counts as digits. -/
theorem isDigit_iff {c : Char} : isDigit c = c.isDigit := by
  rw [Bool.eq_iff_iff]
  simp only [isDigit, Char.isDigit, Bool.and_eq_true, decide_eq_true_eq, ge_iff_le]
  rfl

/-- A numeral has digits only, and at least one. -/
theorem natural?_eq_some {cs : List Char} {n : Nat} :
    natural? cs = some n ↔ cs ≠ [] ∧ (∀ c ∈ cs, c.isDigit = true) ∧ Nat.ofDigitChars 10 cs 0 = n := by
  have value : digitsValue cs = Nat.ofDigitChars 10 cs 0 := rfl
  have digits : (∀ c ∈ cs, c.isDigit = true) ↔ cs.all isDigit = true := by simp [isDigit_iff]
  rw [natural?, value, digits, ← List.isEmpty_eq_false_iff]
  cases cs.isEmpty <;> cases cs.all isDigit <;> simp

end FocusJournal.Text
