import FocusJournal.Journal.AppName
import FocusJournal.Journal.Basic
import FocusJournal.Journal.ServerName
import FocusJournal.Message.Credentials

/-!
# The recorder

Writes the journal. While a span is open it notes the applications that are switched to, each as often as it is left and
entered again. A write that fails changes nothing, except that a span counts as closed even if its stop cannot be
written.

* `Recorder.open?` takes up a journal and closes the span that an earlier run left open.
-/

namespace FocusJournal

/-- A journal in use. -/
structure Recorder where
  journal : Journal
  /-- A span is open. -/
  tracking : Bool
  /-- A device is registered. -/
  registered : Bool
  /-- The application of the last switch in the open span. -/
  app : Option String

namespace Recorder

/-- Takes up a journal, unless a span is open in it that cannot be closed. -/
def open? (j : Journal) : Option Recorder :=
  let closed := if j.lastMark? = some .start then j.append? (.event .stop) none else some j
  closed.map fun j => ⟨j, false, j.registration.isSome, none⟩

/-- Opens a span for a registered device, unless one is open; tells whether one is. -/
def start (r : Recorder) : Recorder × Bool :=
  if r.tracking then (r, true)
  else if r.registered then
    match r.journal.append? (.event .start) none with
    | some j => ({ r with journal := j, tracking := true, app := none }, true)
    | none => (r, false)
  else (r, false)

/-- Closes the open span. -/
def stop (r : Recorder) : Recorder :=
  if r.tracking then
    { r with journal := (r.journal.append? (.event .stop) none).getD r.journal, tracking := false, app := none }
  else r

/-- Notes the application of a URL in the open span, unless it was noted last. -/
def switch (r : Recorder) (url : String) : Recorder :=
  if r.tracking then
    let app := appName url
    if r.app = some app then r
    else
      match r.journal.append? (.event .switch) (some app) with
      | some j => { r with journal := j, app := some app }
      | none => r
  else r

/-- The registration that credentials ask for. The journal has no clock, so its time is left blank. -/
def registrationOf (c : Credentials) : Registration :=
  ⟨Text.trim c.server, Text.trim c.username, Text.trim c.device, ""⟩

/-- Whether a device may be registered with the credentials. -/
def accepts (c : Credentials) : Bool :=
  (ServerName.fault? c.server).isNone && !Text.isBlankString c.username && !c.password.isEmpty
    && !Text.isBlankString c.device

/-- Registers the device; tells whether that succeeded. -/
def login (r : Recorder) (c : Credentials) : Recorder × Bool :=
  if accepts c then
    match r.journal.save? (registrationOf c) with
    | some j => ({ r with journal := j, registered := true }, true)
    | none => (r, false)
  else (r, false)

/-- A recorder that records grants a start and writes nothing. -/
theorem start_of_tracking {r : Recorder} (h : r.tracking = true) : r.start = (r, true) := by
  simp [start, h]

/-- Where nothing is recorded, a stop does nothing. -/
theorem stop_of_not_tracking {r : Recorder} (h : r.tracking = false) : r.stop = r := by
  simp [stop, h]

/-- Where nothing is recorded, a switch does nothing. -/
theorem switch_of_not_tracking {r : Recorder} (h : r.tracking = false) (url : String) : r.switch url = r := by
  simp [switch, h]

/-- A recorder records after a start that it grants, and after no other. -/
@[simp] theorem start_tracking (r : Recorder) : r.start.1.tracking = r.start.2 := by
  unfold start
  split
  · assumption
  · split
    · split <;> simp_all
    · simp_all

/-- Nothing is recorded after a stop, though its row may be refused. -/
@[simp] theorem stop_tracking (r : Recorder) : r.stop.tracking = false := by
  unfold stop
  split
  · rfl
  · simp_all

/-- A switch neither begins to record nor ceases. -/
@[simp] theorem switch_tracking (r : Recorder) (url : String) : (r.switch url).tracking = r.tracking := by
  simp only [switch]
  split
  · split
    · rfl
    · split <;> rfl
  · rfl

/-- A login neither begins to record nor ceases. -/
@[simp] theorem login_tracking (r : Recorder) (c : Credentials) : (r.login c).1.tracking = r.tracking := by
  unfold login
  split
  · split <;> rfl
  · rfl

/-- A login writes no rows. -/
@[simp] theorem login_rows (r : Recorder) (c : Credentials) : (r.login c).1.journal.rows = r.journal.rows := by
  unfold login Journal.save?
  split
  · split
    · next h =>
      split at h
      · cases h; rfl
      · cases h
    · rfl
  · rfl

end Recorder

end FocusJournal
