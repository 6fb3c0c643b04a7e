import FocusJournal.Text.Composite

/-!
# Invisible joiners

Two invisible characters of a name change how the letters beside them are joined. They are allowed only where they can
be seen to matter: after a mark that suppresses a vowel, and one of them between letters that would join.

* `joinersFit` tells whether all joiners of a label are allowed.
-/

namespace FocusJournal.Url

open Text (CodeTable)

/-- How a letter joins with its neighbours. -/
inductive Joining where
  | none
  | left
  | right
  | both
  /-- Joining goes on across the character. -/
  | transparent
  deriving DecidableEq

/-- The letters that join: 1 to the left, 2 to the right, 3 to both sides, 4 transparent. -/
def joiningText : String :=
"173 1 4 594 112 4 275 7 4 263 45 4 1 1 4 1 2 4 1 2 4 1 1 4 72 11 4 1 1 4 3 1 3 1 4 2 0 1 3 0 1 2 0 1 3 0 1 2 0 5 3 0 4
2 0 13 3 1 7 3 0 1 2 0 2 3 0 21 4 14 2 3 0 1 4 0 3 2 1 3 2 0 16 3 0 18 2 0 38 3 0 1 2 0 2 3 0 9 2 0 1 3 0 1 2 0 1 3 0
1 2 0 2 3 0 2 2 1 1 2 0 7 4 2 6 4 2 2 4 1 4 4 0 2 2 10 3 3 2 1 3 15 1 4 0 1 2 0 1 4 0 3 3 0 5 2 0 4 3 0 1 2 0 9 3 0 1
2 0 1 3 0 1 2 0 1 3 0 1 2 0 2 3 0 1 2 0 27 4 2 1 2 0 11 3 0 3 2 0 15 3 0 2 2 0 4 3 0 1 2 0 1 3 0 2 2 0 3 3 0 2 2 0 6 3
38 11 4 25 33 3 0 9 4 9 1 4 24 4 4 1 9 4 1 3 4 1 5 4 18 1 2 0 5 3 0 2 2 0 1 3 0 1 2 0 10 3 0 1 2 0 1 3 0 3 2 0 3 4 4 1
3 1 4 3 1 1 2 0 1 3 0 2 2 5 19 2 3 1 3 2 5 3 0 1 2 0 1 3 7 9 4 0 10 3 0 3 2 1 1 2 0 2 3 0 2 2 0 6 3 0 1 2 0 15 3 1 24
4 1 32 4 55 1 4 1 1 4 4 8 4 4 1 4 3 7 4 10 2 4 29 1 4 58 1 4 4 4 4 8 1 4 20 2 4 26 1 4 2 2 4 57 1 4 4 2 4 4 2 4 2 3 4
3 1 4 30 2 4 3 1 4 11 2 4 57 1 4 4 5 4 1 2 4 4 1 4 20 2 4 22 6 4 1 1 4 58 1 4 2 1 4 1 4 4 8 1 4 7 2 4 11 2 4 30 1 4 61
1 4 12 1 4 50 1 4 3 1 4 55 1 4 1 3 4 5 3 4 1 4 4 7 2 4 11 2 4 29 1 4 58 1 4 2 1 4 6 1 4 5 2 4 20 2 4 28 2 4 57 2 4 4 4
4 8 1 4 20 2 4 29 1 4 72 1 4 7 3 4 1 1 4 90 1 4 2 7 4 12 8 4 98 1 4 2 9 4 11 7 4 73 2 4 27 1 4 1 1 4 1 1 4 55 14 4 1 5
4 1 2 4 5 11 4 1 36 4 9 1 4 102 4 4 1 6 4 1 2 4 2 2 4 25 2 4 4 3 4 16 4 4 13 1 4 2 2 4 6 1 4 15 1 4 703 3 4 946 3 4 29
2 4 30 2 4 30 2 4 64 2 4 1 7 4 8 1 4 2 11 4 9 1 4 41 1 3 3 3 4 1 1 4 16 89 3 12 2 4 0 34 3 0 1 4 0 1 3 117 3 4 4 2 4 9
1 4 6 3 4 219 2 4 2 1 4 58 1 4 1 7 4 1 1 4 1 1 4 2 8 4 6 10 4 2 1 4 48 46 4 2 12 4 20 4 4 48 1 4 1 5 4 1 1 4 5 1 4 40
9 4 12 2 4 32 4 4 2 2 4 1 3 4 56 1 4 1 2 4 3 1 4 1 3 4 58 8 4 2 2 4 152 3 4 1 13 4 1 7 4 4 1 4 6 1 4 3 2 4 198 64 4
523 1 4 2 2 4 26 5 4 49 5 4 5 6 4 96 33 4 3070 3 4 141 1 4 96 32 4 554 4 4 107 2 4 30164 4 4 1 10 4 32 2 4 80 2 4 272
1 4 3 1 4 4 1 4 25 2 4 5 1 4 19 50 3 0 1 1 81 2 4 26 18 4 13 1 4 38 8 4 25 11 4 46 3 4 48 1 4 2 4 4 2 2 4 39 1 4 67 6
4 2 2 4 2 2 4 12 1 4 8 1 4 47 1 4 51 1 4 1 3 4 2 2 4 5 2 4 1 1 4 42 2 4 8 1 4 238 1 4 2 1 4 4 1 4 20272 1 4 737 16 4
16 16 4 207 1 4 249 3 4 513 1 4 226 1 4 149 5 4 1670 3 4 1 2 4 5 4 4 40 3 4 4 1 4 128 5 3 0 1 2 1 1 2 1 2 2 2 1 1 0 5
2 0 4 3 0 1 1 0 5 3 0 1 2 0 3 3 0 1 2 2 1 2 0 2 4 4 4 3 0 1 2 144 1 3 0 1 2 0 1 3 0 3 2 0 3 3 0 1 2 0 2 3 0 1 2 0 1 3
0 2 2 0 1 3 0 1 2 23 4 2 0 2 3 337 1 1 0 33 3 0 1 2 0 1 3 0 4 4 65 5 4 317 2 4 21 1 2 0 2 3 1 2 3 50 6 4 48 3 3 0 1 2
0 17 3 1 11 4 0 3 3 0 1 2 27 4 3 0 2 2 0 12 3 0 4 4 42 1 3 1 2 3 0 3 2 1 1 3 0 2 2 0 2 3 0 1 2 0 2 3 1 1 3 0 2 2 0 1 3
4 1 2 0 1 3 0 1 1 53 1 4 54 15 4 41 1 4 2 2 4 10 3 4 49 4 4 2 2 4 7 1 4 61 3 4 36 5 4 1 8 4 62 1 4 12 2 4 52 9 4 10 4
4 2 1 4 95 3 4 2 1 4 1 2 4 6 1 4 2 1 4 157 1 4 3 8 4 21 2 4 57 2 4 3 1 4 37 7 4 3 5 4 70 6 4 13 1 4 1 1 4 1 1 4 14 2 4
85 8 4 2 3 4 1 1 4 23 1 4 84 6 4 1 1 4 4 2 4 1 2 4 238 4 4 6 2 4 1 2 4 27 2 4 85 8 4 2 1 4 1 2 4 106 1 4 1 1 4 2 6 4 1
1 4 101 1 4 1 1 4 2 4 4 1 5 4 259 9 4 1 2 4 256 2 4 1 1 4 4 1 4 144 4 4 2 2 4 4 1 4 32 10 4 40 6 4 2 4 4 8 1 4 9 6 4 2
3 4 46 13 4 1 2 4 198 1 4 1 3 4 1 1 4 201 7 4 1 6 4 1 1 4 82 22 4 2 7 4 1 2 4 1 2 4 122 6 4 3 1 4 1 2 4 1 7 4 1 1 4 72
2 4 3 1 4 1 1 4 347 2 4 11 2 4 52 5 4 5 1 4 1 1 4 23 1 4 5333 17 4 6 15 4 11464 12 4 3 3 4 2496 5 4 59 7 4 1048 1 4 63
4 4 81 1 4 19640 2 4 1 4 4 4700 46 4 2 23 4 544 3 4 9 16 4 2 7 4 30 4 4 148 3 4 1979 55 4 4 50 4 8 1 4 14 1 4 22 5 4 1
15 4 1360 7 4 1 17 4 2 7 4 1 2 4 1 5 4 100 1 4 160 7 4 375 1 4 61 4 4 508 4 4 254 2 4 243 1 4 2 1 4 7 2 4 5 1 4 474 7
4 41 68 3 0 8 4 792245 1 4 30 96 4 128 240 4"

/-- The letters that join. -/
def joiningTable : CodeTable Nat := .ofValues joiningText

/-- How a character joins. -/
def joining (c : Char) : Joining :=
  match joiningTable.value? c with
  | some 1 => .left
  | some 2 => .right
  | some 3 => .both
  | some 4 => .transparent
  | _ => .none

/-- The first character that is not transparent. -/
def firstOpaque? (cs : List Char) : Option Char := cs.find? fun c => joining c ≠ .transparent

/-- The letter before would join with what comes after it. -/
def joinsForward (before : List Char) : Bool :=
  match firstOpaque? before with
  | some c => joining c = .left || joining c = .both
  | none => false

/-- The letter after would join with what comes before it. -/
def joinsBackward (after : List Char) : Bool :=
  match firstOpaque? after with
  | some c => joining c = .right || joining c = .both
  | none => false

/-- The mark before suppresses a vowel. -/
def followsVirama : List Char → Bool
  | c :: _ => Text.combiningClass c = 9
  | [] => false

/-- Whether the joiners of a label are allowed; what was passed comes last first. -/
def joinersFitFrom (before : List Char) : List Char → Bool
  | [] => true
  | c :: after =>
    let fits :=
      if c.toNat = 0x200C then followsVirama before || (joinsForward before && joinsBackward after)
      else if c.toNat = 0x200D then followsVirama before
      else true
    fits && joinersFitFrom (c :: before) after

/-- Whether all joiners of a label are allowed. -/
def joinersFit (label : List Char) : Bool := joinersFitFrom [] label

end FocusJournal.Url
