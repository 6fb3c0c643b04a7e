import FocusJournal.Text.Blank
import FocusJournal.Text.Mark
import FocusJournal.Text.Normal
import FocusJournal.Url.Direction
import FocusJournal.Url.Joining
import FocusJournal.Url.Mapping
import FocusJournal.Url.Punycode

/-!
# Domain names

A domain name is a sequence of labels between dots. Labels with characters beyond ASCII are brought into one form and
written in ASCII, with a mark in front that says so.

* `Domain.toAscii?` gives the ASCII form of a name, if the name is allowed.
-/

namespace FocusJournal.Url

/-- The pieces of a text between the occurrences of a character. -/
def splitAll (separator : Char) (cs : List Char) : List (List Char) :=
  cs.foldr (fun c pieces =>
    if c = separator then [] :: pieces
    else
      match pieces with
      | [] => [[c]]
      | piece :: rest => (c :: piece) :: rest) [[]]

/-- A character of ASCII. -/
def isAscii (c : Char) : Bool := c.toNat < 128

namespace Domain

/-- The characters of ASCII that no name may have. -/
def isForbidden (c : Char) : Bool :=
  c.toNat ≤ 32 || c.toNat = 127 || ['%', '#', '/', ':', '<', '>', '?', '@', '[', '\\', ']', '^', '|'].contains c

/-- The mark of a label that is written in ASCII. -/
def encodedMark : List Char := ['x', 'n', '-', '-']

/-- The longest encoded label that is read, without its mark. -/
def longestEncoded : Nat := 2000

/-- The longest label that is written in ASCII. -/
def longestPlain : Nat := 1000

/-- A label whose characters are as they should be and in their places. -/
def isWellFormed (label : List Char) : Bool :=
  !(label.head?.any Text.isMark) && joinersFit label

/-- A label, with its form for people and its form in ASCII. -/
structure Label where
  plain : List Char
  ascii : List Char

namespace Label

/-- The label that is written in ASCII behind the mark: what it writes must be in its final form. -/
def ofEncoded? (written : List Char) : Option Label :=
  if written.isEmpty || written.getLast? = some '-' || longestEncoded < written.length || !written.all isAscii then none
  else
    match Punycode.decode? written with
    | none => none
    | some plain =>
      let isFinal := plain.all (fun c => spell? c = some [c]) && Text.composed plain = plain
      if isFinal && isWellFormed plain then some ⟨plain, encodedMark ++ written⟩ else none

/-- The label with these characters, which are spelled as they count and composed. -/
def ofPlain? (label : List Char) : Option Label :=
  if encodedMark.isPrefixOf label then ofEncoded? (label.drop encodedMark.length)
  else if label.all isAscii then some ⟨label, label⟩
  else if isWellFormed label && decide (label.length ≤ longestPlain) then
    some ⟨label, encodedMark ++ Punycode.encode label⟩
  else none

end Label

/-- A name that is written in ASCII without an encoded label is taken as it is, in lower case. -/
def isSimple (name : List Char) : Bool :=
  name.all isAscii
    && (splitAll '.' name).all fun label => !encodedMark.isPrefixOf (label.map Text.asciiLower)

/-- The ASCII form of a name whose labels have to be looked at. -/
def encode? (name : List Char) : Option (List Char) := do
  let spelled ← name.mapM spell?
  let labels ← (splitAll '.' (Text.composed spelled.flatten)).mapM Label.ofPlain?
  if directionsFit (labels.map Label.plain) then some (List.intercalate ['.'] (labels.map Label.ascii)) else none

/-- The ASCII form of a name, if the name is allowed. -/
def toAscii? (name : List Char) : Option (List Char) := do
  let ascii ← if isSimple name then some (name.map Text.asciiLower) else encode? name
  if ascii.any isForbidden then none else some ascii

end Domain

end FocusJournal.Url
