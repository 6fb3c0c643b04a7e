import FocusJournal.Browser.Platform
import FocusJournal.Text.Utf8
import FocusJournal.Toml.Reader

/-!
# Settings

What the reporter can be configured with: how often it polls, how long a connection waits, and the platform. All of it
is optional. A section of the file is a table, or an array of the section's values in their order.

* `Settings.load` reads a file, if there is one.
-/

namespace FocusJournal

/-- What the reporter is configured with. -/
structure Settings where
  /-- Milliseconds between two polls, as configured. -/
  interval : Nat
  /-- The configured name of the platform. -/
  os : Option String
  /-- Seconds that a request may take to arrive, as configured. -/
  readTimeout : Nat
  /-- Seconds that an answer may take, as configured. -/
  replyTimeout : Nat
  deriving DecidableEq

namespace Settings

/-- What holds unless it is configured otherwise. -/
def standard : Settings := ⟨1000, none, 2, 10⟩

/-- The least number of milliseconds between two polls. -/
def leastInterval : Nat := 100

/-- The least number of seconds that a connection waits. -/
def leastTimeout : Nat := 1

/-- Milliseconds between two polls. -/
def pollInterval (s : Settings) : Nat := max leastInterval s.interval

/-- Seconds that a request may take to arrive. -/
def readSeconds (s : Settings) : Nat := max leastTimeout s.readTimeout

/-- Seconds that an answer may take. -/
def replySeconds (s : Settings) : Nat := max leastTimeout s.replyTimeout

/-- The platform of the browser. -/
def platform (s : Settings) : Platform := .resolve s.os

/-- Milliseconds between two ticks of the timer, if there is one. -/
def schedule? (s : Settings) : Option Nat := s.platform.schedule? s.pollInterval

/-! ## Reading -/

/-- The values of a section. -/
inductive Section where
  | named (members : Toml.Members)
  | listed (items : List Toml)

namespace Section

/-- The section that a value makes up; a time makes up an empty one. -/
def ofToml? : Toml → Option Section
  | .table _ members => some (.named members)
  | .time _ => some (.named [])
  | .array items => some (.listed items)
  | .tables items => some (.listed (items.map (.table .opened)))
  | _ => none

/-- A section by its name; one that is missing is empty. -/
def find? (name : String) (m : Toml.Members) : Option Section :=
  match m.get? name with
  | none => some (.named [])
  | some value => ofToml? value

/-- A value of a section, by its name or by its place. -/
def value? (name : String) (place : Nat) : Section → Option Toml
  | .named members => members.get? name
  | .listed items => items[place]?

/-- A number of a section, which must not be negative. -/
def natural? (name : String) (place standard : Nat) (s : Section) : Option Nat :=
  match s.value? name place with
  | none => some standard
  | some (.integer (.ofNat n)) => some n
  | some _ => none

/-- A text of a section, which may be missing. -/
def text? (name : String) (place : Nat) (s : Section) : Option (Option String) :=
  match s.value? name place with
  | none => some none
  | some (.string text) => some (some text)
  | some _ => none

end Section

/-- The settings in a document. -/
def ofMembers? (m : Toml.Members) : Option Settings := do
  let poll ← Section.find? "poll" m
  let platform ← Section.find? "platform" m
  let ipc ← Section.find? "ipc" m
  let interval ← poll.natural? "interval_ms" 0 standard.interval
  let os ← platform.text? "os" 0
  let readTimeout ← ipc.natural? "read_timeout_secs" 0 standard.readTimeout
  let replyTimeout ← ipc.natural? "reply_timeout_secs" 1 standard.replyTimeout
  some ⟨interval, os, readTimeout, replyTimeout⟩

/-- Why there are no settings in a file. -/
inductive Fault where
  /-- The file is not text. -/
  | unreadable
  /-- The text is no document, or a value in it is not of the kind that is needed. -/
  | malformed
  deriving DecidableEq

/-- The settings in the bytes of a file, if there is one. -/
def load : Option (List UInt8) → Except Fault Settings
  | none => .ok standard
  | some bytes =>
    match Text.text? bytes with
    | none => .error .unreadable
    | some cs =>
      match (Toml.ofText? cs).bind ofMembers? with
      | none => .error .malformed
      | some s => .ok s

end Settings

end FocusJournal
