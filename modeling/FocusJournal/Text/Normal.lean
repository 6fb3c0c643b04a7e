import FocusJournal.Text.Composite

/-!
# Composed text

Text that looks the same can be written in several ways. In composed text, characters are taken apart, marks are brought
into the order of their classes, and what can be composed is composed again, so equivalent texts become equal.

* `composed` gives the composed form of a text.
-/

namespace FocusJournal.Text

/-- Puts a character behind text that comes last first, before the marks at its end that have a higher class. -/
def place (c : Char) : List Char → List Char
  | [] => [c]
  | d :: before =>
    if combiningClass c ≠ 0 ∧ combiningClass c < combiningClass d then d :: place c before else c :: d :: before

/-- The characters in the order of their classes between those of class zero. -/
def arranged (cs : List Char) : List Char := (cs.foldl (fun placed c => place c placed) []).reverse

/-- Text that is being composed; what is done and the marks that stay come last first. -/
structure Composing where
  done : List Char
  /-- The last character of class zero, which may take up marks. -/
  base : Option Char
  marks : List Char

namespace Composing

/-- What is composed so far, last first. -/
def flushed (s : Composing) : List Char :=
  match s.base with
  | none => s.done
  | some base => s.marks ++ base :: s.done

/-- A mark in between keeps a character from its base. -/
def isBlocked (s : Composing) (c : Char) : Bool :=
  match s.marks with
  | [] => false
  | mark :: _ => combiningClass c ≤ combiningClass mark

/-- The character that the base becomes by taking up another one. -/
def taken? (s : Composing) (c : Char) : Option Char :=
  if s.isBlocked c then none else s.base.bind fun base => compose? base c

/-- Takes the next character. -/
def step (s : Composing) (c : Char) : Composing :=
  match s.taken? c with
  | some base => { s with base := some base }
  | none =>
    if combiningClass c = 0 then ⟨s.flushed, some c, []⟩
    else if s.base.isNone then { s with done := c :: s.done }
    else { s with marks := c :: s.marks }

end Composing

/-- The composed form of a text. -/
def composed (cs : List Char) : List Char :=
  ((arranged (cs.flatMap decompose)).foldl Composing.step ⟨[], none, []⟩).flushed.reverse

end FocusJournal.Text
