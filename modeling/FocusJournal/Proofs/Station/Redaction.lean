import FocusJournal.Proofs.Station.Run

/-!
# Redaction

What is left of a station when the passwords that wait in it are blotted out, so that only whether there is one can
still be told. Nothing that a station does looks at more: to redact it and its input first or its outcome afterwards
comes to the same (`Station.turn_redact`, `JournalEngine.loseWorker_redact`), and a register keeps nothing of a password
(`Recorder.login_redact`).
-/

namespace FocusJournal

/-- Credentials without the password, of which only the presence is kept. -/
def Credentials.redact (c : Credentials) : Credentials :=
  { c with password := if c.password.isEmpty then "" else "<redacted>" }

/-- The request without its password. -/
def Control.redact : Control → Control
  | .login c => .login c.redact
  | control => control

/-- The input without its password. -/
def Input.redact : Input → Input
  | .control request id asker => .control request.redact id asker
  | i => i

/-- The call without its password. -/
def EngineCall.redact : EngineCall → EngineCall
  | .login c id asker => .login c.redact id asker
  | c => c

/-- The effect without its password. -/
def Effect.redact : Effect → Effect
  | .call c => .call c.redact
  | .answer asker response => .answer asker response

/-- The outcome without the passwords of its calls. -/
def Outcome.redact (o : Outcome) : Outcome := { o with calls := o.calls.map EngineCall.redact }

/-- The engine without the passwords that wait in its queue. -/
def JournalEngine.redact (e : JournalEngine) : JournalEngine := { e with queue := e.queue.map EngineCall.redact }

/-- The station without the passwords that wait in it. -/
def Station.redact (s : Station JournalEngine) : Station JournalEngine :=
  { s with engine := s.engine.redact, inbox := s.inbox.map Input.redact }

/-- The turn without the password that it posts. -/
def Station.Turn.redact : Turn → Turn
  | .post i => .post i.redact
  | t => t

/-! ## The engine -/

/-- Of a password the recorder asks whether it is there. -/
lemma Recorder.login_redact (r : Recorder) (c : Credentials) : r.login c.redact = r.login c := by
  have there : c.redact.password.isEmpty = c.password.isEmpty := by
    rw [Credentials.redact]
    cases h : c.password.isEmpty <;> simp
  rw [login, login, accepts, accepts, there]
  rfl

namespace JournalEngine

/-- A login comes to the same whatever its password is. -/
lemma apply_redact (r : Recorder) (c : EngineCall) : apply r c.redact = apply r c := by
  cases c with
  | login c id asker => exact r.login_redact c
  | _ => rfl

/-- The acknowledgment of a call does not tell its password. -/
lemma acknowledgment_redact (success : Bool) (c : EngineCall) :
    c.redact.acknowledgment success = c.acknowledgment success := by
  cases c <;> rfl

/-- There is no password in an acknowledgment to take out. -/
lemma map_redact_acknowledgment (success : Bool) (c : EngineCall) :
    (c.acknowledgment success).map Input.redact = c.acknowledgment success := by
  cases c <;> rfl

/-- Submitting a call commutes with taking out the passwords. -/
lemma submit_redact (e : JournalEngine) (c : EngineCall) :
    e.redact.submit c.redact = ((e.submit c).1.redact, (e.submit c).2.map Input.redact) := by
  cases ha : e.alive with
  | true => simp [submit, redact, ha]
  | false => simp [submit, redact, ha, acknowledgment_redact, map_redact_acknowledgment]

/-- So does the work on the oldest call. -/
lemma work?_redact (e : JournalEngine) :
    e.redact.work? = e.work?.map fun (engine, acks) => (engine.redact, acks.map Input.redact) := by
  cases hq : e.queue with
  | nil => simp [work?, redact, hq]
  | cons c rest => simp [work?, redact, hq, apply_redact, acknowledgment_redact, map_redact_acknowledgment]

/-- All calls are worked off to the same journal, whatever the passwords are. -/
lemma workAll_redact (e : JournalEngine) : e.redact.workAll = e.workAll := by
  simp [workAll, redact, List.foldl_map, apply_redact, acknowledgment_redact]

/-- Losing the worker commutes with taking out the passwords. -/
lemma loseWorker_redact (e : JournalEngine) : e.redact.loseWorker = e.loseWorker.redact := by
  cases ha : e.alive with
  | true =>
    have alive : e.redact.alive = true := ha
    simp only [loseWorker, alive, ha, workAll_redact]
    rfl
  | false => simp [loseWorker, redact, ha]

end JournalEngine

/-! ## The reporter -/

/-- No password comes out of a focus event. -/
lemma Reporter.onFocus_redact (r : Reporter) (event : FocusEvent) :
    (r.onFocus event).2.map Effect.redact = (r.onFocus event).2 := by
  unfold onFocus
  split <;> rfl

/-- No password comes out of the acknowledgment of a start. -/
lemma Reporter.onStartAcked_redact (r : Reporter) (success : Bool) (origin : StartOrigin) :
    (r.onStartAcked success origin).2.map Effect.redact = (r.onStartAcked success origin).2 := by
  simp only [onStartAcked, settle]
  split
  · split <;> rfl
  · split <;> rfl

/-- A reporter passes credentials on without a look at them. -/
lemma Reporter.handle_redact (r : Reporter) (recording : Bool) (i : Input) :
    r.handle recording i.redact = ((r.handle recording i).1, (r.handle recording i).2.map Effect.redact) := by
  cases i with
  | notification n =>
    cases h : FocusEvent.ofNotification? n with
    | none => simp [Input.redact, handle, h]
    | some event => simp [Input.redact, handle, h, onFocus_redact]
  | focus event => simp [Input.redact, handle, onFocus_redact]
  | control control id asker => cases control <;> rfl
  | startAcked success origin => simp [Input.redact, handle, onStartAcked_redact]
  | loginAcked success id asker => rfl

/-! ## The station -/

namespace Station

/-- Carrying out an effect commutes with taking out the passwords. -/
lemma carryOut_redact (s : Station JournalEngine) (done : Outcome) (effect : Effect) :
    carryOut (s.redact, done.redact) effect.redact =
      ((carryOut (s, done) effect).1.redact, (carryOut (s, done) effect).2.redact) := by
  cases effect with
  | answer asker response => simp [carryOut, Effect.redact, Outcome.redact]
  | call c => simp [carryOut, Effect.redact, redact, Outcome.redact, Engine.submit, s.engine.submit_redact c]

/-- So does carrying out one after the other. -/
lemma foldl_carryOut_redact (effects : List Effect) (s : Station JournalEngine) (done : Outcome) :
    (effects.map Effect.redact).foldl carryOut (s.redact, done.redact) =
      ((effects.foldl carryOut (s, done)).1.redact, (effects.foldl carryOut (s, done)).2.redact) := by
  induction effects generalizing s done with
  | nil => rfl
  | cons effect rest ih =>
    rw [List.map_cons, List.foldl_cons, List.foldl_cons, carryOut_redact]
    exact ih _ _

/-- So does processing an input. -/
lemma process_redact (s : Station JournalEngine) (i : Input) :
    s.redact.process i.redact = ((s.process i).1.redact, (s.process i).2.redact) := by
  have handled : s.redact.reporter.handle (Engine.isTracking s.redact.engine) i.redact = _ :=
    s.reporter.handle_redact (Engine.isTracking s.engine) i
  rw [process, handled]
  exact foldl_carryOut_redact _ ⟨(s.reporter.handle (Engine.isTracking s.engine) i).1, s.engine, s.inbox⟩ .none

/-- So does taking the oldest input. -/
lemma next?_redact (s : Station JournalEngine) :
    s.redact.next? = s.next?.map fun (s, done) => (s.redact, done.redact) := by
  obtain ⟨r, engine, inbox⟩ := s
  cases inbox with
  | nil => rfl
  | cons i rest => exact congrArg some (process_redact ⟨r, engine, rest⟩ i)

/-- So does the work on the oldest call of a station. -/
lemma work?_redact (s : Station JournalEngine) : s.redact.work? = s.work?.map redact := by
  have worked : s.redact.engine.work? = _ := s.engine.work?_redact
  simp only [work?, worked, Option.map_map]
  cases s.engine.work? with
  | none => rfl
  | some step => simp [redact]

/-- A turn without passwords comes to the same as the turn with them, when they are taken out of it. -/
theorem turn_redact (s : Station JournalEngine) (t : Turn) :
    s.redact.turn t.redact = ((s.turn t).1.redact, (s.turn t).2.redact) := by
  cases t with
  | post i => simp [turn, Turn.redact, post, redact, Outcome.none, Outcome.redact]
  | handle =>
    simp only [turn, Turn.redact, next?_redact]
    cases s.next? <;> rfl
  | work =>
    simp only [turn, Turn.redact, work?_redact]
    cases s.work? <;> rfl

end Station

end FocusJournal
