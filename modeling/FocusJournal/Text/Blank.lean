/-!
# Blank text

The characters that count as white space, and the trimming of text by them. `isBlank` is the Unicode property
White_Space; `isAsciiBlank` is the smaller set that a request line is tested with.
-/

namespace FocusJournal.Text

/-- The Unicode property White_Space. -/
def isBlank (c : Char) : Bool :=
  let n := c.toNat
  (9 ≤ n && n ≤ 13) || n == 32 || n == 0x85 || n == 0xA0 || n == 0x1680 || (0x2000 ≤ n && n ≤ 0x200A)
    || n == 0x2028 || n == 0x2029 || n == 0x202F || n == 0x205F || n == 0x3000

/-- The bytes that separate words on a line of ASCII: space, tab, line feed, form feed and carriage return. -/
def isAsciiBlank (b : UInt8) : Bool :=
  b == 32 || b == 9 || b == 10 || b == 12 || b == 13

/-- The text without the blank characters around it. -/
def trimChars (cs : List Char) : List Char :=
  ((cs.dropWhile isBlank).reverse.dropWhile isBlank).reverse

/-- The string without the blank characters around it. -/
def trim (s : String) : String := String.ofList (trimChars s.toList)

/-- A string of blank characters only, or of none. -/
def isBlankString (s : String) : Bool := s.toList.all isBlank

/-- A string is not blank if one of its characters is not. -/
theorem isBlankString_eq_false {s : String} : isBlankString s = false ↔ ∃ c ∈ s.toList, isBlank c = false := by
  simp [isBlankString]

/-- Upper case letters of ASCII in lower case, everything else as it is. -/
def asciiLower (c : Char) : Char :=
  if 65 ≤ c.toNat ∧ c.toNat ≤ 90 then Char.ofNat (c.toNat + 32) else c

end FocusJournal.Text
