/-!
# Punycode

A label with characters beyond ASCII is written in ASCII as its ASCII characters, a hyphen, and the places of the others
in ascending order, each place as a distance from the one before in a number system whose digits adapt to what was
written.

* `Punycode.encode` writes a label, `Punycode.decode?` reads one.
-/

namespace FocusJournal.Url.Punycode

/-- The digit of a value below 36. -/
def digit (value : Nat) : Char := if value < 26 then Char.ofNat (97 + value) else Char.ofNat (22 + value)

/-- The value of a digit. -/
def digitValue? (c : Char) : Option Nat :=
  let n := c.toNat
  if 97 ≤ n ∧ n ≤ 122 then some (n - 97)
  else if 65 ≤ n ∧ n ≤ 90 then some (n - 65)
  else if 48 ≤ n ∧ n ≤ 57 then some (n - 22)
  else none

/-- A digit below the threshold of its place is the last one. -/
def threshold (place bias : Nat) : Nat := min 26 (max 1 (place - bias))

/-- The threshold is never zero, so that a distance grows smaller from digit to digit. -/
theorem threshold_pos (place bias : Nat) : 1 ≤ threshold place bias := by
  unfold threshold; omega

/-- The bias of a distance that is already scaled. -/
def biasOf (steps distance : Nat) : Nat :=
  if 455 < distance then biasOf (steps + 36) (distance / 35) else steps + 36 * distance / (distance + 38)
termination_by distance
decreasing_by exact Nat.div_lt_self (by omega) (by omega)

/-- The bias after a distance, among so many characters. -/
def adapt (distance count : Nat) (first : Bool) : Nat :=
  let scaled := if first then distance / 700 else distance / 2
  biasOf 0 (scaled + scaled / count)

/-- The digits of a distance. -/
def encodeDistance (bias place distance : Nat) : List Char :=
  let least := threshold place bias
  if distance < least then [digit distance]
  else digit (least + (distance - least) % (36 - least))
    :: encodeDistance bias (place + 36) ((distance - least) / (36 - least))
termination_by distance
decreasing_by
  have := threshold_pos place bias
  have := Nat.div_le_self (distance - threshold place bias) (36 - threshold place bias)
  omega

/-- A label that is being written; what is written comes last first. -/
structure Writing where
  written : List Char
  distance : Nat
  bias : Nat
  /-- The number of characters that have their place. -/
  placed : Nat

/-- Passes one character while those with a code point are being placed; `basic` of all are ASCII. -/
def Writing.pass (code basic : Nat) (w : Writing) (c : Char) : Writing :=
  if c.toNat < code then { w with distance := w.distance + 1 }
  else if c.toNat = code then
    { written := (encodeDistance w.bias 36 w.distance).reverse ++ w.written
      distance := 0
      bias := adapt w.distance (w.placed + 1) (w.placed = basic)
      placed := w.placed + 1 }
  else w

/-- Places the characters with the code points given, which ascend, after all below `reached` have their places. -/
def Writing.placeAll (label : List Char) (basic : Nat) : (reached : Nat) → List Nat → Writing → Writing
  | _, [], w => w
  | reached, code :: codes, w =>
    let begun := { w with distance := w.distance + (code - reached) * (w.placed + 1) }
    let passed := label.foldl (Writing.pass code basic) begun
    placeAll label basic (code + 1) codes { passed with distance := passed.distance + 1 }

/-- The code points beyond ASCII of a label, each once, ascending. -/
def codes (label : List Char) : List Nat :=
  (((label.map Char.toNat).filter fun n => 128 ≤ n).mergeSort fun a b => decide (a ≤ b)).eraseDups

/-- The ASCII form of a label. -/
def encode (label : List Char) : List Char :=
  let basic := label.filter fun c => c.toNat < 128
  let lead := if basic.isEmpty then [] else basic ++ ['-']
  lead ++ (Writing.placeAll label basic.length 128 (codes label) ⟨[], 0, 72, basic.length⟩).written.reverse

/-- Distances stay below this bound. -/
def limit : Nat := 4294967296

/-- Reads a distance and gives what is left; `weight` is the value of the next digit, `sum` that of those before. -/
def decodeDistance? (bias place weight sum : Nat) (ahead : List Char) :
    Option (Nat × { rest : List Char // rest.length < ahead.length }) :=
  match ahead with
  | [] => none
  | c :: rest =>
    match digitValue? c with
    | none => none
    | some value =>
      let least := threshold place bias
      let sum := sum + value * weight
      if limit ≤ sum then none
      else if value < least then some (sum, ⟨rest, by simp⟩)
      else if limit ≤ weight * (36 - least) then none
      else
        match decodeDistance? bias (place + 36) (weight * (36 - least)) sum rest with
        | none => none
        | some (sum, left) => some (sum, ⟨left.1, by have := left.2; simp; omega⟩)

/-- Puts the characters in their places among those that have one; `code` and `place` are where the last one went. -/
def decodeOnto? (bias code place : Nat) (placed : List Char) (ahead : List Char) : Option (List Char) :=
  if ahead.isEmpty then some placed
  else
    match decodeDistance? bias 36 1 place ahead with
    | none => none
    | some (reached, rest) =>
      let count := placed.length + 1
      let next := code + reached / count
      if next.isValidChar then
        decodeOnto? (adapt (reached - place) count (place = 0)) next (reached % count + 1)
          (placed.insertIdx (reached % count) (Char.ofNat next)) rest.1
      else none
termination_by ahead.length
decreasing_by exact rest.2

/-- The label that an ASCII form writes. -/
def decode? (written : List Char) : Option (List Char) :=
  let distances := (written.reverse.takeWhile fun c => c ≠ '-').reverse
  let basic := (written.take (written.length - distances.length)).dropLast
  decodeOnto? 72 128 0 basic distances

end FocusJournal.Url.Punycode
