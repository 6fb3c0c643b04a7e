import FocusJournal.Journal.Basic
import FocusJournal.Text.Utf8

/-!
# The home directory

The reporter keeps its files in a folder of the home directory. What matters of the home is which places are taken, and
by what.

* `Home.find?` is what stands at a place, `Home.put` and `Home.remove` change it.
-/

namespace FocusJournal

/-- The names that lead from the home directory to a place in it. -/
abbrev Trail := List String

/-- What can stand at a place. -/
inductive Entry where
  | file (content : List UInt8)
  | folder
  /-- A socket, whether or not anyone listens on it. -/
  | socket
  | journal (j : Journal)

/-- A home directory: where it is, and what is in it. -/
structure Home where
  path : String
  entries : List (Trail × Entry)

namespace Home

/-- The reporter's folder. -/
def folder : Trail := [".tabtrack"]

/-- The place of the socket. -/
def socket : Trail := [".tabtrack", "reporter.sock"]

/-- The place of the settings. -/
def settings : Trail := [".tabtrack", "reporter.toml"]

/-- The folder of the journal. -/
def journalFolder : Trail := [".tabtrack", "reporter"]

/-- The place of the journal. -/
def journal : Trail := [".tabtrack", "reporter", "journal.db"]

/-- Whether one place is below another. -/
def isBelow (upper lower : Trail) : Bool := upper.isPrefixOf lower && upper.length < lower.length

/-- What stands at a place. Where anything is below it, the place is a folder. -/
def find? (h : Home) (place : Trail) : Option Entry :=
  match h.entries.find? fun e => e.1 = place with
  | some (_, entry) => some entry
  | none => if h.entries.any fun e => isBelow place e.1 then some .folder else none

/-- The home after a place is cleared. -/
def remove (h : Home) (place : Trail) : Home := { h with entries := h.entries.filter fun e => e.1 ≠ place }

/-- The home after an entry was put at a place. -/
def put (h : Home) (place : Trail) (entry : Entry) : Home :=
  { h with entries := (place, entry) :: (h.remove place).entries }

/-- Whether there is a socket at a place. -/
def hasSocket (h : Home) (place : Trail) : Bool :=
  match h.find? place with
  | some .socket => true
  | _ => false

/-- Whether folders can be made up to a place: nothing on the way is anything else. -/
def admitsFolder (h : Home) (place : Trail) : Bool :=
  match h.find? place with
  | none => true
  | some .folder => true
  | some _ => false

/-- The whole path of a place. -/
def pathOf (h : Home) (place : Trail) : String := "/".intercalate (h.path :: place)

end Home

end FocusJournal
