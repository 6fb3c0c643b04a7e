import FocusJournal.Table

/-!
# TOML documents

A document is a table of keys and values. It is written as a sequence of statements, each of which opens a table, adds a
table to a list of them, or gives a key a value; a table remembers how it came about, because that decides which later
statements may reach into it.

* `Members.obey` obeys one statement after another, and refuses one that says something twice.
-/

namespace FocusJournal

namespace Toml

/-- How a table came about. -/
inductive Origin where
  /-- It is on the way to a table that a header opened. -/
  | passed
  /-- A header opened it. -/
  | opened
  /-- It is on the way to a key with dots. -/
  | dotted
  /-- It was written as a value. -/
  | inline
  deriving DecidableEq

end Toml

/-- A value of a document. -/
inductive Toml where
  | string (s : String)
  | integer (n : Int)
  /-- A number with a fraction or an exponent, as written. -/
  | float (written : String)
  | bool (b : Bool)
  /-- A date, a time or both, as written. -/
  | time (written : String)
  | array (items : List Toml)
  | table (origin : Toml.Origin) (members : List (String × Toml))
  /-- Tables that headers of their own opened, one after another. -/
  | tables (items : List (List (String × Toml)))

namespace Toml

/-- The keys of a table with their values. -/
abbrev Members := Table String Toml

/-- Where a statement acts: the tables that it passes through, and the key in the last of them. -/
structure Place where
  path : List String
  key : String

/-- One line of a document. -/
inductive Statement where
  /-- A header that opens a table. -/
  | opens (place : Place)
  /-- A header that adds a table to a list. -/
  | adds (place : Place)
  /-- A key with a value, in the table that is open. -/
  | gives (place : Place) (value : Toml)

namespace Members

/-- Changes the last of a list of tables. -/
def changeLast (change : Members → Option Members) : List Members → Option (List Members)
  | [] => none
  | [m] => (change m).map fun m => [m]
  | m :: rest => (changeLast change rest).map fun rest => m :: rest

/-- Gives a key a value. Only tables made by dots may be added to; a list of tables may be passed through. -/
def give (key : String) (value : Toml) : (path : List String) → Members → Option Members
  | [], members => if (members.get? key).isNone then some (members.put key value) else none
  | step :: path, members =>
    match members.get? step with
    | none => (give key value path []).map fun inner => members.put step (.table .dotted inner)
    | some (.table .dotted inner) =>
      (give key value path inner).map fun inner => members.put step (.table .dotted inner)
    | some (.table .passed inner) =>
      if path.isEmpty then none
      else (give key value path inner).map fun inner => members.put step (.table .passed inner)
    | some (.tables items) =>
      if path.isEmpty then none
      else (changeLast (give key value path) items).map fun items => members.put step (.tables items)
    | some _ => none

/-- Changes the table that headers lead to; of a list of tables they lead to the last one. -/
def reach (change : Members → Option Members) : (path : List String) → Members → Option Members
  | [], members => change members
  | step :: path, members =>
    match members.get? step with
    | none => (reach change path []).map fun inner => members.put step (.table .passed inner)
    | some (.table .inline _) => none
    | some (.table origin inner) =>
      (reach change path inner).map fun inner => members.put step (.table origin inner)
    | some (.tables items) =>
      (changeLast (reach change path) items).map fun items => members.put step (.tables items)
    | some _ => none

/-- Opens a table, which may have been passed through before but not opened. -/
def openTable (key : String) (members : Members) : Option Members :=
  match members.get? key with
  | none => some (members.put key (.table .opened []))
  | some (.table .passed inner) => some (members.put key (.table .opened inner))
  | some _ => none

/-- Adds an empty table to a list of tables. -/
def addTable (key : String) (members : Members) : Option Members :=
  match members.get? key with
  | none => some (members.put key (.tables [[]]))
  | some (.tables items) => some (members.put key (.tables (items ++ [[]])))
  | some _ => none

/-- Obeys statements, of which the first ones are about the table at `current`. -/
def obey (current : List String) (members : Members) : List Statement → Option Members
  | [] => some members
  | .opens place :: rest =>
    match members.reach (openTable place.key) place.path with
    | none => none
    | some members => obey (place.path ++ [place.key]) members rest
  | .adds place :: rest =>
    match members.reach (addTable place.key) place.path with
    | none => none
    | some members => obey (place.path ++ [place.key]) members rest
  | .gives place value :: rest =>
    match members.reach (give place.key value place.path) current with
    | none => none
    | some members => obey current members rest

end Members

/-- The table that keys with values make up where they are written as a value. -/
def inline? (entries : List (Place × Toml)) : Option Toml :=
  (entries.foldlM give []).map (.table .inline)
where
  give (members : Members) (entry : Place × Toml) : Option Members :=
    members.give entry.1.key entry.2 entry.1.path

end Toml

end FocusJournal
