import FocusJournal.Journal.Recorder
import FocusJournal.Reporter.Station

/-!
# The journaling engine

An engine that never keeps its caller waiting: calls go into a queue, and a worker applies them to the journal one after
the other and acknowledges each start and login when it is done. Once the worker is lost, starts and logins are refused
at once and other calls come to nothing.

* `JournalEngine.work?` is one step of the worker.
* `Station.settle` lets reporter and worker run until nothing is left to do.
-/

namespace FocusJournal

/-- The acknowledgment of a call. -/
def EngineCall.acknowledgment (success : Bool) : EngineCall → List Input
  | .start origin => [.startAcked success origin]
  | .login _ id asker => [.loginAcked success id asker]
  | .stop => []
  | .switchUrl _ => []

/-- A recorder with the calls that wait for its worker. -/
structure JournalEngine where
  recorder : Recorder
  queue : List EngineCall
  /-- The worker is there. -/
  alive : Bool

namespace JournalEngine

/-- An engine on a journal. -/
def open? (j : Journal) : Option JournalEngine := (Recorder.open? j).map fun r => ⟨r, [], true⟩

/-- Applies a call; tells what it comes to, for a start or a login. -/
def apply (r : Recorder) : EngineCall → Recorder × Bool
  | .start _ => r.start
  | .stop => (r.stop, true)
  | .switchUrl url => (r.switch url, true)
  | .login c _ _ => r.login c

/-- One step of the worker: the oldest call is applied and acknowledged. -/
def work? (e : JournalEngine) : Option (JournalEngine × List Input) :=
  match e.queue with
  | [] => none
  | c :: rest =>
    let (r, success) := apply e.recorder c
    some ({ e with recorder := r, queue := rest }, c.acknowledgment success)

/-- The worker's steps until the queue is empty, with all acknowledgments. -/
def workAll (e : JournalEngine) : JournalEngine × List Input :=
  let step (state : Recorder × List Input) (c : EngineCall) : Recorder × List Input :=
    let (r, success) := apply state.1 c
    (r, state.2 ++ c.acknowledgment success)
  let (r, acks) := e.queue.foldl step (e.recorder, [])
  ({ e with recorder := r, queue := [] }, acks)

/-- The engine after its worker has taken one more start and is lost. -/
def loseWorker (e : JournalEngine) : JournalEngine :=
  if e.alive then { e.workAll.1 with recorder := e.workAll.1.recorder.start.1, alive := false } else e

/-- Takes a call. -/
def submit (e : JournalEngine) (c : EngineCall) : JournalEngine × List Input :=
  if e.alive then ({ e with queue := e.queue ++ [c] }, []) else (e, c.acknowledgment false)

instance : Engine JournalEngine where
  submit := submit
  isTracking e := e.recorder.tracking
  isRegistered e := e.recorder.registered

end JournalEngine

namespace Station

/-- One step of the engine's worker, whose acknowledgments go into the inbox. -/
def work? (s : Station JournalEngine) : Option (Station JournalEngine) :=
  s.engine.work?.map fun (engine, acks) => { s with engine := engine, inbox := s.inbox ++ acks }

/-- One thing that can happen to a running station. -/
inductive Turn where
  /-- Someone posts an input. -/
  | post (i : Input)
  /-- The reporter handles the oldest input. -/
  | handle
  /-- The worker applies the oldest call. -/
  | work

/-- The station after a turn, and what the reporter did in it. -/
def turn (s : Station JournalEngine) : Turn → Station JournalEngine × Outcome
  | .post i => (s.post i, .none)
  | .handle => s.next?.getD (s, .none)
  | .work => (s.work?.getD s, .none)

/-- Nothing is left to do. -/
def isQuiescent (s : Station JournalEngine) : Bool := s.inbox.isEmpty && s.engine.queue.isEmpty

/-- The number of turns after which a station is quiescent: an input may lead to a start, its acknowledgment to one more
call, and that one is not acknowledged. -/
def pendingTurns (s : Station JournalEngine) : Nat := 4 * s.inbox.length + 3 * s.engine.queue.length

/-- Lets reporter and worker take turns until nothing is left to do, at most as many turns as given. -/
def settleWithin : (limit : Nat) → Station JournalEngine → Station JournalEngine × Outcome
  | 0, s => (s, .none)
  | limit + 1, s =>
    if s.inbox.isEmpty then
      match s.work? with
      | none => (s, .none)
      | some s => settleWithin limit s
    else
      let (s, done) := s.turn .handle
      let (s, rest) := settleWithin limit s
      (s, done ++ rest)

/-- Lets reporter and worker run until nothing is left to do. -/
def settle (s : Station JournalEngine) : Station JournalEngine × Outcome := settleWithin s.pendingTurns s

end Station

end FocusJournal
