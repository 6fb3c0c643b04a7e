import FocusJournal.Connection.Errand
import FocusJournal.Engine.Journaling

/-!
# The service

A reporter with its journaling engine behind connections. The service can be shut down, after which connections are
refused, and started again on the same journal with nothing known of the browser.

* `Service.connect` is one connection, from its request to the lines that are written.
-/

namespace FocusJournal

/-- Whether the reporter is there. -/
inductive Service.Status where
  | running (station : Station JournalEngine)
  /-- Only the journal is left. -/
  | stopped (journal : Journal)

/-- A reporter behind connections. -/
structure Service where
  platform : Platform
  status : Service.Status
  /-- The number of the next one who asks. -/
  nextAsker : Asker

namespace Service

/-- The status in which a journal is taken up, if it can be. -/
def takeUp (platform : Platform) (journal : Journal) : Status :=
  match JournalEngine.open? journal with
  | some engine => .running (.start platform engine)
  | none => .stopped journal

/-- A service on a journal. -/
def start (platform : Platform) (journal : Journal) : Service := ⟨platform, takeUp platform journal, 0⟩

/-- The journal. -/
def journal (s : Service) : Journal :=
  match s.status with
  | .running station => station.engine.recorder.journal
  | .stopped journal => journal

/-- The reporter and its engine, while they are there. -/
def station? (s : Service) : Option (Station JournalEngine) :=
  match s.status with
  | .running station => some station
  | .stopped _ => none

/-- Ends the reporter. -/
def shutDown (s : Service) : Service := { s with status := .stopped s.journal }

/-- Starts the reporter again on the same journal. -/
def restart (s : Service) : Service := { s with status := takeUp s.platform s.journal }

/-- Posts an input and lets everything happen that it leads to. -/
def feed (s : Service) (i : Input) : Service × Outcome :=
  match s.status with
  | .stopped _ => (s, .none)
  | .running station =>
    let (station, done) := (station.post i).settle
    ({ s with status := .running station }, done)

/-- Asks the reporter. A stalled reporter answers only after the connection has given up. -/
def ask (s : Service) (control : Control) (id : Option String) (stalled : Bool) : Service × List Response :=
  match s.status with
  | .stopped _ => (s, [.refused id .shuttingDown])
  | .running _ =>
    let (after, done) := feed { s with nextAsker := s.nextAsker + 1 } (.control control id s.nextAsker)
    let answers := (done.answers.filter fun a => a.asker = s.nextAsker).map Answer.response
    (after, (relay id .waiting (if stalled then [] else answers)).1)

/-- Hands a notification to the reporter. -/
def notify (s : Service) (n : Notification) : Service × List Response :=
  match s.status with
  | .stopped _ => (s, [.refused none .shuttingDown])
  | .running _ => ((s.feed (.notification n)).1, [.accepted])

/-- Carries out an errand; gives the responses that are written. -/
def run (s : Service) (stalled : Bool) : Errand → Service × List Response
  | .refuse response => (s, [response])
  | .ignore => (s, [])
  | .notify n => s.notify n
  | .ask control id => s.ask control id stalled

/-- A connection whose request comes in reads. -/
def connect (s : Service) (reads : List (List UInt8)) (ending : Request.Ending) (stalled : Bool) :
    Service × List Response :=
  s.run stalled (.ofReceived (Request.receive ending reads))

end Service

end FocusJournal
