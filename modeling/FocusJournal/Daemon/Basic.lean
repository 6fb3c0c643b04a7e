import FocusJournal.Client.Run
import FocusJournal.Connection.Service
import FocusJournal.Daemon.Home
import FocusJournal.Daemon.Settings

/-!
# The reporter in its home

The reporter starts in a home directory: it takes the place of its socket, reads its settings and takes up its journal.
When it is killed, the socket and the journal stay behind, and it can be started again.

* `Daemon.start` starts the reporter or says why that is not possible; bad settings are no reason.
* `Daemon.halt` is the home that it leaves behind.
-/

namespace FocusJournal

/-- Why the reporter gives up as it starts. -/
inductive StartFault where
  /-- The reporter's folder cannot be made. -/
  | noFolder
  /-- What stands at the place of the socket cannot be removed. -/
  | socketTaken
  /-- The path of the socket is too long. -/
  | pathTooLong
  /-- The folder of the journal cannot be made. -/
  | noJournalFolder
  /-- What stands at the place of the journal is none. -/
  | noJournal
  deriving DecidableEq

/-- The reporter at work. -/
structure Daemon where
  home : Home
  settings : Settings
  service : Service

namespace Daemon

/-- The path of a socket has at most so many bytes. -/
def longestPath : Nat := 107

/-- The code with which the reporter ends when it gives up. -/
def giveUpCode : Nat := 1

/-- The home with a new socket in the place of an old one. -/
def takeSocket (h : Home) : Except StartFault Home :=
  match h.find? Home.socket with
  | some .folder => .error .socketTaken
  | _ =>
    if longestPath < (Text.bytesOf (h.pathOf Home.socket)).length then .error .pathTooLong
    else .ok (h.put Home.socket .socket)

/-- The settings in a home; where they cannot be read, the standard ones hold. -/
def settingsIn (h : Home) : Settings :=
  let loaded := match h.find? Home.settings with
    | none => Settings.load none
    | some (.file content) => Settings.load (some content)
    | some _ => .error .unreadable
  match loaded with
  | .ok s => s
  | .error _ => .standard

/-- The journal in a home; an empty file is a journal without entries. -/
def journalIn (h : Home) : Except StartFault Journal :=
  if !h.admitsFolder Home.journalFolder then .error .noJournalFolder
  else match h.find? Home.journal with
  | none => .ok .fresh
  | some (.journal j) => .ok j
  | some (.file content) => if content.isEmpty then .ok .fresh else .error .noJournal
  | some _ => .error .noJournal

/-- The reporter started in a home. -/
def start (h : Home) : Except StartFault Daemon :=
  if !h.admitsFolder Home.folder then .error .noFolder
  else
    match takeSocket h with
    | .error fault => .error fault
    | .ok h =>
      match journalIn h with
      | .error fault => .error fault
      | .ok journal =>
        let settings := settingsIn h
        .ok ⟨h, settings, .start settings.platform journal⟩

/-- The journal as it stands. -/
def journal (d : Daemon) : Journal := d.service.journal

/-- The home that the reporter leaves behind when it is killed. -/
def halt (d : Daemon) : Home := d.home.put Home.journal (.journal d.journal)

/-- The reporter killed and started again. -/
def restart (d : Daemon) : Except StartFault Daemon := start d.halt

/-- A connection that sends bytes and then closes its side; gives the responses. -/
def connect (d : Daemon) (bytes : List UInt8) : Daemon × List Response :=
  let (service, responses) := d.service.connect (Request.readsOf bytes) .closed false
  ({ d with service := service }, responses)

/-- A connection as a client sees it: bytes for bytes. -/
def reply (d : Daemon) (bytes : List UInt8) : Daemon × Option (List UInt8) :=
  let (d, responses) := d.connect bytes
  (d, some (responses.flatMap fun r => Text.bytesOf r.text ++ [Request.lineEnd]))

/-- A command line held against the reporter. -/
def serve (d : Daemon) (input : List UInt8) (invocation : Invocation) : Daemon × Exit :=
  let (d, _, exit) := (Exit.ofInvocation input invocation).hold reply d
  (d, exit)

/-- One tick of the timer, if there is a timer. -/
def tick (d : Daemon) : Daemon :=
  match d.settings.schedule? with
  | none => d
  | some _ => { d with service := (d.service.feed (.focus .pollTick)).1 }

/-- Lets the timer tick until the journal has so many rows, but at most so many times. -/
def awaitRows (count : Nat) : (ticks : Nat) → Daemon → Daemon
  | 0, d => d
  | ticks + 1, d => if count ≤ d.journal.rows.length then d else awaitRows count ticks d.tick

end Daemon

end FocusJournal
