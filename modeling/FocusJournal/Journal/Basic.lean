/-!
# The journal

What is kept on disk: an append-only sequence of rows and the registration of the device. A row starts a span, stops it,
or switches to an application while it is open; rows of other kinds, which another program may have added, are kept
as they are. A write may be refused, and then nothing is written and no id is used.

* `Journal.append` adds a row, `Journal.save` puts the registration.
* `Journal.lastMark?` tells whether a span is open.
-/

namespace FocusJournal

/-- The kinds of row that the journal is made of. -/
inductive EventKind where
  | start
  | stop
  | switch
  deriving DecidableEq

namespace EventKind

/-- The name of a kind on disk. -/
def name : EventKind → String
  | start => "start"
  | stop => "stop"
  | switch => "switch"

/-- The kind of a name. -/
def ofName? (name : String) : Option EventKind := [start, stop, switch].find? fun k => k.name == name

end EventKind

/-- The kind of a row on disk. -/
inductive RowKind where
  | event (kind : EventKind)
  | foreign (name : String)
  deriving DecidableEq

namespace RowKind

/-- The name of a kind on disk. -/
def name : RowKind → String
  | event kind => kind.name
  | foreign name => name

/-- The kind of a name. -/
def ofName (name : String) : RowKind :=
  match EventKind.ofName? name with
  | some kind => event kind
  | none => foreign name

end RowKind

/-- A row of the journal. -/
structure Row where
  id : Nat
  kind : RowKind
  /-- The application that a switch goes to. -/
  app : Option String
  deriving DecidableEq

/-- The device as the last accepted login registered it. -/
structure Registration where
  server : String
  username : String
  device : String
  registeredAt : String
  deriving DecidableEq

/-- What is on disk, and which tables can be written. -/
structure Journal where
  /-- The rows in the order of their ids. -/
  rows : List Row
  registration : Option Registration
  eventsWritable : Bool
  registrationWritable : Bool

namespace Journal

/-- A new journal. -/
def fresh : Journal := ⟨[], none, true, true⟩

/-- The id of the next row. -/
def nextId (j : Journal) : Nat :=
  match j.rows.getLast? with
  | some row => row.id + 1
  | none => 1

/-- Adds a row, unless rows cannot be written. -/
def append? (j : Journal) (kind : RowKind) (app : Option String) : Option Journal :=
  if j.eventsWritable then some { j with rows := j.rows ++ [⟨j.nextId, kind, app⟩] } else none

/-- Puts the registration, unless it cannot be written. -/
def save? (j : Journal) (registration : Registration) : Option Journal :=
  if j.registrationWritable then some { j with registration := some registration } else none

/-- The start or the stop that a row is. -/
def mark? (row : Row) : Option EventKind :=
  match row.kind with
  | .event .start => some .start
  | .event .stop => some .stop
  | _ => none

/-- The last start or stop of the journal. -/
def lastMark? (j : Journal) : Option EventKind := (j.rows.filterMap mark?).getLast?

/-- The rows with their kinds as events, or the first kind that is none. -/
def entries (j : Journal) : Except String (List (Row × EventKind)) :=
  j.rows.mapM fun row =>
    match row.kind with
    | .event kind => .ok (row, kind)
    | .foreign name => .error name

/-- The wording for a kind of row that is no event. -/
def unknownKind (name : String) : String := "Unknown journal event kind: " ++ name

end Journal

end FocusJournal
