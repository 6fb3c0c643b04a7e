import FocusJournal.Text.CodeTable

/-!
# The direction of labels

A name that has letters written from right to left is allowed only if each of its labels keeps its direction, so that
it looks the same wherever it is shown.

* `directionsFit` tells whether all labels of a name keep their direction.
-/

namespace FocusJournal.Url

open Text (CodeTable)

/-- What a character does to the direction of text. -/
inductive Direction where
  | leftToRight
  | rightToLeft
  | arabicLetter
  | arabicNumber
  | europeanNumber
  | numberSeparator
  | commonSeparator
  | numberTerminator
  | neutral
  | boundary
  | mark
  deriving DecidableEq

/-- The characters that do not run from left to right, with the place of what they do among the directions. -/
def directionText : String :=
"0 9 9 0 5 8 0 14 9 0 7 8 0 3 7 0 5 8 0 1 5 0 1 6 0 1 5 0 2 6 0 10 4 0 1 6 0 38 8 26 4 8 0 1 9 33 1 8 0 4 7 0 9 8 1 2 7
4 34 8 31 1 8 449 2 8 7 14 8 2 28 8 1 17 8 0 112 10 5 1 8 128 1 8 140 7 10 256 5 8 0 1 7 1 45 10 0 1 1 0 1 10 0 1 1 0
2 10 0 1 1 0 2 10 0 1 1 0 1 10 8 37 1 17 2 8 0 1 2 0 2 7 0 1 2 0 1 6 0 1 2 0 2 8 0 11 10 0 48 2 0 21 10 0 10 3 0 1 7 0
2 3 0 3 2 0 1 10 0 101 2 0 7 10 1 1 8 0 6 10 0 2 2 0 2 10 0 1 8 0 4 10 0 2 2 0 10 4 0 23 2 0 1 10 0 30 2 0 27 10 2 89
2 0 11 10 0 1 2 14 43 1 0 9 10 0 2 1 0 4 8 0 1 1 2 1 10 0 24 1 0 4 10 0 1 1 0 9 10 0 1 1 0 3 10 0 1 1 0 5 10 2 41 1 0
3 10 2 1 1 1 56 2 0 8 10 0 42 2 0 57 10 55 1 10 1 1 10 4 8 10 4 1 10 3 7 10 10 2 10 29 1 10 58 1 10 4 4 10 8 1 10 20 2
10 14 2 7 7 1 7 2 5 10 57 1 10 4 17 10 30 2 10 3 1 10 11 2 10 57 1 10 4 8 10 4 1 10 20 2 10 13 1 7 8 8 10 58 1 10 2 1
10 1 4 10 8 10 10 11 2 10 30 1 10 61 1 10 12 1 10 37 6 8 0 1 7 0 1 8 5 1 10 3 1 10 55 1 10 1 3 10 5 17 10 11 2 10 20 7
8 2 1 10 58 1 10 15 2 10 20 2 10 28 2 10 57 2 10 4 4 10 8 1 10 20 2 10 29 1 10 72 1 10 7 5 10 90 1 10 2 7 10 4 1 7 7 8
10 98 1 10 2 9 10 11 7 10 73 2 10 27 1 10 1 1 10 1 1 10 0 4 8 51 14 10 1 5 10 1 2 10 5 48 10 9 1 10 102 4 10 1 6 10 1
2 10 2 2 10 25 2 10 4 3 10 16 4 10 13 1 10 2 2 10 6 1 10 15 1 10 703 3 10 48 10 8 102 1 8 666 2 8 117 3 10 29 2 10 30
2 10 30 2 10 67 7 10 8 1 10 2 11 10 7 1 7 1 1 10 18 27 8 122 2 10 34 1 10 118 3 10 4 2 10 9 1 10 6 3 10 4 6 8 152 34 8
23 2 10 2 1 10 58 1 10 1 9 10 1 1 10 2 8 10 6 13 10 48 31 10 49 4 10 48 1 10 1 5 10 1 1 10 5 1 10 40 9 10 12 2 10 32 4
10 2 2 10 1 3 10 56 1 10 1 2 10 3 1 10 1 3 10 58 8 10 2 2 10 152 3 10 1 13 10 1 7 10 4 1 10 6 1 10 3 2 10 198 64 10
524 2 9 2 24 8 8 3 7 2 15 8 0 1 6 0 26 8 65 34 7 14 33 10 19 38 8 4 1 7 11 20 8 60 136 8 0 1 5 0 1 7 0 290 8 69 26 8 1
145 8 25 620 8 1 339 8 256 662 8 1 105 8 229 6 8 4 3 10 7 7 8 127 1 10 96 32 10 0 517 8 3 25 8 9 4 10 2 1 8 6 1 8 5 3
8 89 2 10 5 1 8 90 1 8 196 36 8 7132 64 8 22160 55 8 326 3 8 95 4 10 0 1 8 0 10 10 0 2 8 30 2 10 80 2 10 14 34 8 102 1
8 121 1 10 3 1 10 4 1 10 25 2 10 1 4 8 0 1 10 11 2 7 58 4 8 76 2 10 26 18 10 13 1 10 38 8 10 25 11 10 46 3 10 48 1 10
2 4 10 2 2 10 39 1 10 67 6 10 2 2 10 2 2 10 12 1 10 8 1 10 47 1 10 51 1 10 1 3 10 2 2 10 5 2 10 1 1 10 42 2 10 8 1 10
115 2 8 121 1 10 2 1 10 4 1 10 20272 1 10 147 33 2 363 18 8 64 63 2 0 49 8 32 16 10 21 2 8 44 1 2 653 1 8 62 77 8 3 17
8 92 1 10 226 1 10 0 27 4 122 5 10 1157 284 1 3 1 8 0 225 1 0 15 10 0 38 1 2 8 10 0 165 1 0 2 10 4 75 1 3 7 8 0 448 1
0 36 2 0 4 10 8 10 3 6 80 1 208 31 3 1 42 1 1 2 10 0 5 1 16 59 2 0 3 10 0 40 1 8 22 2 0 11 10 0 9 2 22 18 1 0 4 10 0
113 1 10 1 10 54 15 10 11 20 8 10 1 10 2 2 10 10 3 10 49 4 10 2 2 10 7 1 10 61 3 10 36 5 10 1 8 10 62 1 10 12 2 10 52
9 10 10 4 10 2 1 10 95 3 10 2 1 10 1 2 10 6 1 10 2 1 10 157 1 10 3 8 10 21 2 10 57 2 10 3 1 10 37 15 10 195 8 10 2 3
10 1 1 10 23 1 10 84 6 10 1 1 10 4 2 10 1 2 10 238 4 10 6 2 10 1 2 10 27 2 10 85 8 10 2 1 10 1 2 10 31 13 8 62 1 10 1
1 10 2 6 10 1 1 10 101 3 10 2 4 10 1 5 10 259 9 10 1 2 10 256 2 10 1 1 10 4 1 10 144 8 10 4 1 10 32 6 10 2 2 10 40 6
10 2 4 10 8 1 10 9 6 10 2 3 10 46 13 10 1 2 10 406 14 10 84 22 10 2 7 10 1 2 10 1 2 10 122 21 10 1 1 10 72 2 10 3 1 10
1 1 10 347 2 10 11 2 10 52 5 10 5 1 10 1 1 10 146 8 8 0 4 7 0 17 8 5198 1 10 6 15 10 13978 5 10 59 7 10 1048 1 10 63 4
10 79 1 8 1 1 10 19640 2 10 4705 71 10 544 3 10 17 8 10 2 7 10 30 4 10 59 89 8 0 3 10 0 1 8 186 87 8 1705 55 10 4 50
10 8 1 10 14 1 10 22 21 10 1360 144 10 160 7 10 375 1 10 61 4 10 15 1 7 492 4 10 784 208 1 0 7 10 75 34 1 0 7 10 0 21
1 785 205 2 434 576 8 61 3 8 61 1 8 178 1144 8 4 155 8 4 311 8 78 340 8 12 41 8 7 46 8 1 7 8 8 14 8 4 9 8 7 219 8"

/-- The characters that do not run from left to right. -/
def directionTable : CodeTable Nat := .ofValues directionText

/-- What a character does to the direction of text. -/
def direction (c : Char) : Direction :=
  match directionTable.value? c with
  | some 1 => .rightToLeft
  | some 2 => .arabicLetter
  | some 3 => .arabicNumber
  | some 4 => .europeanNumber
  | some 5 => .numberSeparator
  | some 6 => .commonSeparator
  | some 7 => .numberTerminator
  | some 8 => .neutral
  | some 9 => .boundary
  | some 10 => .mark
  | _ => .leftToRight

/-- What only text from right to left has. -/
def Direction.isLeftward (d : Direction) : Bool := d = .rightToLeft || d = .arabicLetter || d = .arabicNumber

/-- What a label of either direction may have. -/
def Direction.isWeak (d : Direction) : Bool :=
  [.europeanNumber, .numberSeparator, .commonSeparator, .numberTerminator, .neutral, .boundary, .mark].contains d

/-- The last direction of a label, but for marks. -/
def lastDirection? (ds : List Direction) : Option Direction := (ds.filter fun d => d ≠ .mark).getLast?

/-- A label from left to right. -/
def keepsRightward (ds : List Direction) : Bool :=
  ds.all (fun d => d = .leftToRight || d.isWeak)
    && (lastDirection? ds).any fun d => d = .leftToRight || d = .europeanNumber

/-- A label from right to left, with numbers of one kind only. -/
def keepsLeftward (ds : List Direction) : Bool :=
  ds.all (fun d => d.isLeftward || d.isWeak)
    && (lastDirection? ds).any (fun d => d.isLeftward || d = .europeanNumber)
    && !(ds.contains .europeanNumber && ds.contains .arabicNumber)

/-- Whether a label keeps its direction. -/
def keepsDirection (label : List Char) : Bool :=
  let ds := label.map direction
  match ds with
  | [] => true
  | .leftToRight :: _ => keepsRightward ds
  | .rightToLeft :: _ => keepsLeftward ds
  | .arabicLetter :: _ => keepsLeftward ds
  | _ => false

/-- Whether all labels of a name keep their direction, if it has letters from right to left. -/
def directionsFit (labels : List (List Char)) : Bool :=
  !(labels.any fun label => label.any fun c => (direction c).isLeftward) || labels.all keepsDirection

end FocusJournal.Url
