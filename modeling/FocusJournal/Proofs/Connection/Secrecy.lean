import FocusJournal.Proofs.Connection.Ending
import FocusJournal.Proofs.Message.Control
import FocusJournal.Proofs.Message.Password
import FocusJournal.Proofs.Station.Redaction

/-!
# Secrecy of the password

Two courses of a service are compared in which the same things happen, except that the passwords in some requests to log
in are others. What can be seen of the service is the same in both: `password_unseen`. The requests come to errands that
are equal once the passwords are taken out of them (`Happening.Alike.redact_eq`), a step of the service does the same
whether they are taken out before it or after it (`Service.step_redact`), and nothing that can be seen has one in it
(`Service.glimpses_redact`).
-/

namespace FocusJournal

/-! ## Courses of a service -/

/-- A request as it arrives. -/
structure Request.Arrival where
  reads : List (List UInt8)
  ending : Ending

/-- What is to be done for a request. -/
def Request.Arrival.errand (a : Arrival) : Errand := .ofReceived (receive a.ending a.reads)

/-- One thing that can happen to a service, with the requests given in some way. -/
inductive Happening (ρ : Type) where
  /-- A connection brings a request. -/
  | request (r : ρ)
  /-- It is time to look where the focus is. -/
  | tick
  /-- The reporter handles the oldest input. -/
  | handle
  /-- The worker applies the oldest call. -/
  | work
  /-- The disk begins or ceases to refuse writes. -/
  | disk (d : Disk)
  | loseWorker
  | shutDown
  | restart

/-- What happens, with what a request brings replaced. -/
def Happening.map {ρ σ : Type} (f : ρ → σ) : Happening ρ → Happening σ
  | .request r => .request (f r)
  | .tick => .tick
  | .handle => .handle
  | .work => .work
  | .disk d => .disk d
  | .loseWorker => .loseWorker
  | .shutDown => .shutDown
  | .restart => .restart

/-- The credentials in a request, as they are written to a log. -/
def Happening.logged? : Happening Errand → Option String
  | .request (.ask (.login c) _) => some c.description
  | _ => none

/-- What can be seen when something happens to a service. -/
structure Glimpse where
  /-- The rows and the registration. -/
  journal : Journal
  reporter? : Option Reporter
  /-- Whether the engine records, and whether a device is registered. -/
  flags? : Option (Bool × Bool)
  /-- What the engine acknowledged and the reporter has not heard yet. -/
  acknowledged : List Input
  logged? : Option String
  /-- The lines that are written if a connection brought a request and gives up after so much more has happened. -/
  lines : Nat → Silence → List Response

namespace Service

/-- The status, with its station replaced if there is one. -/
def Status.map (f : Station JournalEngine → Station JournalEngine) : Status → Status
  | .running station => .running (f station)
  | .stopped journal => .stopped journal

/-- The status with the disk as it has become. -/
def Status.onDisk (d : Disk) : Status → Status
  | .running station => .running (station.onDisk d)
  | .stopped journal => .stopped { journal with eventsWritable := d.events, registrationWritable := d.registration }

/-- The service with something done to its station, if it is there. -/
def onStation (s : Service) (f : Station JournalEngine → Station JournalEngine) : Service :=
  { s with status := s.status.map f }

/-- The service after something has happened. -/
def step (s : Service) : Happening Errand → Service
  | .request errand =>
    { s.onStation fun station => (errand.posted s.nextAsker).foldl Station.post station with
      nextAsker := s.nextAsker + 1 }
  | .tick => s.onStation fun station => station.post (.focus .pollTick)
  | .handle => s.onStation fun station => (station.turn .handle).1
  | .work => s.onStation fun station => (station.turn .work).1
  | .disk d => { s with status := s.status.onDisk d }
  | .loseWorker => s.onStation fun station => { station with engine := station.engine.loseWorker }
  | .shutDown => s.shutDown
  | .restart => s.restart

/-- What the reporter answers when something happens. -/
def answersTo (s : Service) : Happening Errand → List Answer
  | .handle => (s.station?.map fun station => (station.turn .handle).2.answers).getD []
  | _ => []

/-- What the reporter answers while things happen one after the other. -/
def allAnswers (s : Service) : List (Happening Errand) → List Answer
  | [] => []
  | h :: hs => s.answersTo h ++ (s.step h).allAnswers hs

/-- The lines of a connection that gives up after the answers. -/
def linesFor (s : Service) (errand : Errand) (answers : List Answer) (silence : Silence) : List Response :=
  match s.status with
  | .running _ => errand.written ((answers.filter fun a => a.asker = s.nextAsker).map Answer.response) silence
  | .stopped _ => (s.run false errand).2

/-- The lines for a request that is brought before more happens, where the connection gives up after so much of it. -/
def linesAfter (s : Service) (h : Happening Errand) (more : List (Happening Errand)) (patience : Nat)
    (silence : Silence) : List Response :=
  match h with
  | .request errand => s.linesFor errand ((s.step h).allAnswers (more.take patience)) silence
  | _ => []

/-- What can be seen when something happens to a service, and then more. -/
def glimpse (s : Service) (h : Happening Errand) (more : List (Happening Errand)) : Glimpse :=
  let after := s.step h
  { journal := after.journal
    reporter? := after.station?.map Station.reporter
    flags? := after.station?.map fun station => (Engine.isTracking station.engine, Engine.isRegistered station.engine)
    acknowledged := after.station?.elim [] fun station => station.inbox.filter Input.isAcknowledgment
    logged? := h.logged?
    lines := s.linesAfter h more }

/-- What can be seen while things happen one after the other. -/
def glimpses (s : Service) : List (Happening Errand) → List Glimpse
  | [] => []
  | h :: hs => s.glimpse h hs :: (s.step h).glimpses hs

end Service

/-! ## Redaction -/

/-- The errand without its password. -/
def Errand.redact : Errand → Errand
  | .ask request id => .ask request.redact id
  | errand => errand

/-- The service without the passwords in its station. -/
def Service.redact (s : Service) : Service := s.onStation Station.redact

namespace Errand

/-- An errand without its password posts the same without the password. -/
lemma posted_redact (errand : Errand) (asker : Asker) :
    errand.redact.posted asker = (errand.posted asker).map Input.redact := by
  cases errand <;> rfl

/-- What an errand writes does not depend on its password. -/
lemma written_redact (errand : Errand) (answers : List Response) (silence : Silence) :
    errand.redact.written answers silence = errand.written answers silence := by
  cases errand <;> rfl

end Errand

/-- What is logged of credentials is without the password anyway. -/
lemma Happening.logged?_redact (h : Happening Errand) : (h.map Errand.redact).logged? = h.logged? := by
  cases h with
  | request errand =>
    cases errand with
    | ask request id => cases request <;> rfl
    | _ => rfl
  | _ => rfl

/-- Posting to a station commutes with taking out the passwords. -/
lemma Station.foldl_post_redact (s : Station JournalEngine) (inputs : List Input) :
    (inputs.map Input.redact).foldl post s.redact = (inputs.foldl post s).redact := by
  induction inputs generalizing s with
  | nil => rfl
  | cons i rest ih =>
    have posted : s.redact.post i.redact = (s.post i).redact := by simp [post, redact]
    rw [List.map_cons, List.foldl_cons, List.foldl_cons, posted]
    exact ih (s.post i)

/-- There are no passwords in acknowledgments. -/
lemma Input.filter_redact (inputs : List Input) :
    (inputs.map redact).filter isAcknowledgment = inputs.filter isAcknowledgment := by
  induction inputs with
  | nil => rfl
  | cons i rest ih =>
    rw [List.map_cons]
    cases i with
    | startAcked | loginAcked => exact congrArg (_ :: ·) ih
    | notification | focus | control => exact ih

namespace Service

/-- What is done to the station does not depend on passwords if it comes to the same without them. -/
lemma onStation_redact {f f' : Station JournalEngine → Station JournalEngine} (s : Service)
    (same : ∀ station, f' station.redact = (f station).redact) : s.redact.onStation f' = (s.onStation f).redact := by
  obtain ⟨platform, status, asker⟩ := s
  cases status with
  | running station => exact congrArg (fun station => (⟨platform, .running station, asker⟩ : Service)) (same station)
  | stopped journal => rfl

/-- The journal of a service holds no passwords. -/
lemma journal_redact (s : Service) : s.redact.journal = s.journal := by
  obtain ⟨platform, status, asker⟩ := s
  cases status <;> rfl

/-- The station of a service without passwords is its station without passwords. -/
lemma station?_redact (s : Service) : s.redact.station? = s.station?.map Station.redact := by
  obtain ⟨platform, status, asker⟩ := s
  cases status <;> rfl

/-- No password waits in a service that has just been started. -/
lemma takeUp_redact (platform : Platform) (journal : Journal) :
    (takeUp platform journal).map Station.redact = takeUp platform journal := by
  rw [takeUp, JournalEngine.open?]
  cases Recorder.open? journal <;> rfl

/-- What happens to a service without passwords comes to the same as with them, when they are taken out of it. -/
lemma step_redact (s : Service) (h : Happening Errand) : s.redact.step (h.map Errand.redact) = (s.step h).redact := by
  have turned (t : Station.Turn) (station : Station JournalEngine) :
      (station.redact.turn t.redact).1 = (station.turn t).1.redact := by rw [station.turn_redact]
  cases h with
  | request errand =>
    have posted : s.redact.onStation (fun station => (errand.redact.posted s.nextAsker).foldl Station.post station) =
        (s.onStation fun station => (errand.posted s.nextAsker).foldl Station.post station).redact := by
      refine s.onStation_redact fun station => ?_
      rw [errand.posted_redact, Station.foldl_post_redact]
    exact congrArg (fun s : Service => { s with nextAsker := s.nextAsker + 1 }) posted
  | tick => exact s.onStation_redact (turned (.post (.focus .pollTick)))
  | handle => exact s.onStation_redact (turned .handle)
  | work => exact s.onStation_redact (turned .work)
  | disk d =>
    obtain ⟨platform, status, asker⟩ := s
    cases status <;> rfl
  | loseWorker =>
    refine s.onStation_redact fun station => ?_
    exact congrArg (fun engine => { station.redact with engine }) station.engine.loseWorker_redact
  | shutDown => exact congrArg (fun journal => { s with status := .stopped journal }) s.journal_redact
  | restart =>
    -- What is taken up again is the journal, and with the station the passwords that waited in it are gone.
    have taken : takeUp s.platform s.redact.journal = (takeUp s.platform s.journal).map Station.redact := by
      rw [journal_redact, takeUp_redact]
    exact congrArg (fun status => { s with status }) taken

/-- What the reporter answers does not depend on passwords. -/
lemma answersTo_redact (s : Service) (h : Happening Errand) :
    s.redact.answersTo (h.map Errand.redact) = s.answersTo h := by
  obtain ⟨platform, status, asker⟩ := s
  cases h with
  | handle =>
    cases status with
    | running station => exact congrArg (·.2.answers) (station.turn_redact .handle)
    | stopped journal => rfl
  | _ => rfl

/-- Nor do all the answers that it gives while things happen. -/
lemma allAnswers_redact (s : Service) (hs : List (Happening Errand)) :
    s.redact.allAnswers (hs.map (·.map Errand.redact)) = s.allAnswers hs := by
  induction hs generalizing s with
  | nil => rfl
  | cons h hs ih => rw [List.map_cons, allAnswers, allAnswers, answersTo_redact, step_redact, ih]

/-- What a connection writes when it gives up does not depend on the password that it brought. -/
lemma linesFor_redact (s : Service) (errand : Errand) (answers : List Answer) (silence : Silence) :
    s.redact.linesFor errand.redact answers silence = s.linesFor errand answers silence := by
  obtain ⟨platform, status, asker⟩ := s
  cases status with
  | running station => exact errand.written_redact _ silence
  | stopped journal => cases errand <;> rfl

/-- Nor do the lines after what happens next, whenever it gives up. -/
lemma linesAfter_redact (s : Service) (h : Happening Errand) (more : List (Happening Errand)) :
    s.redact.linesAfter (h.map Errand.redact) (more.map (·.map Errand.redact)) = s.linesAfter h more := by
  funext patience silence
  cases h with
  | request errand =>
    have after : s.redact.step (.request errand.redact) = _ := s.step_redact (.request errand)
    rw [Happening.map, linesAfter, after, ← List.map_take, allAnswers_redact]
    exact s.linesFor_redact errand _ silence
  | _ => rfl

/-- What can be seen at one time has no password in it. -/
lemma glimpse_redact (s : Service) (h : Happening Errand) (more : List (Happening Errand)) :
    s.redact.glimpse (h.map Errand.redact) (more.map (·.map Errand.redact)) = s.glimpse h more := by
  simp only [glimpse, step_redact, journal_redact, station?_redact, h.logged?_redact, linesAfter_redact, Option.map_map,
    Option.elim_map]
  have acknowledged (station : Station JournalEngine) :
      station.redact.inbox.filter Input.isAcknowledgment = station.inbox.filter Input.isAcknowledgment :=
    Input.filter_redact station.inbox
  simp only [Function.comp_def, acknowledged]
  rfl

/-- What can be seen of a service has no password in it. -/
lemma glimpses_redact (s : Service) (hs : List (Happening Errand)) :
    s.redact.glimpses (hs.map (·.map Errand.redact)) = s.glimpses hs := by
  induction hs generalizing s with
  | nil => rfl
  | cons h hs ih => rw [List.map_cons, glimpses, glimpses, glimpse_redact, step_redact, ih]

end Service

/-! ## Other passwords -/

/-- The same thing happens, except for the password in it if it is a request to log in. -/
inductive Happening.Alike : Happening Request.Arrival → Happening Request.Arrival → Prop where
  | same (h : Happening Request.Arrival) : Alike h h
  /-- Two requests are received. One is to log in with credentials, and the other writes the same but for a password
  that is not blank. -/
  | login {a b : Request.Arrival} {line line' : List UInt8} {j : Json} {request : ControlRequest} {c : Credentials}
      {word : String} (received : Request.receive a.ending a.reads = .ok line)
      (received' : Request.receive b.ending b.reads = .ok line') (writes : Json.ofBytes line = .ok j)
      (writes' : Json.ofBytes line' = .ok (ControlRequest.repassword word j))
      (asks : Envelope.ofJson j = .ok (.control request)) (comes : request.check = .ok (some (.login c)))
      (nonblank : Text.isBlankString word = false) : Alike (.request a) (.request b)

/-- A request that is received and makes sense comes to an errand that asks for what it says. -/
lemma Request.Arrival.errand_eq {a : Arrival} {line : List UInt8} {j : Json} {request : ControlRequest}
    {control : Control} (received : receive a.ending a.reads = .ok line) (writes : Json.ofBytes line = .ok j)
    (asks : Envelope.ofJson j = .ok (.control request)) (comes : request.check = .ok (some control)) :
    a.errand = .ask control request.id := by
  simp only [errand, received, Errand.ofReceived, Envelope.parse, writes, asks, Errand.ofEnvelope, comes]

/-- Of a password that is not blank nothing is left but that there is one. -/
lemma Credentials.redact_of_nonblank {c : Credentials} (h : Text.isBlankString c.password = false) :
    c.redact = { c with password := "<redacted>" } := by
  have there : c.password.isEmpty = false := by
    rw [Bool.eq_false_iff, ne_eq, String.isEmpty_iff]
    intro empty
    rw [empty] at h
    cases h
  rw [redact, there]
  rfl

/-- Things that are alike come to the same errands but for passwords. -/
lemma Happening.Alike.redact_eq {h h' : Happening Request.Arrival} (alike : Alike h h') :
    (h.map Request.Arrival.errand).map Errand.redact = (h'.map Request.Arrival.errand).map Errand.redact := by
  cases alike with
  | same => rfl
  -- Neither password is blank, so both are there, and that is all that is left of them.
  | @login a b line line' j request c word received received' writes writes' asks comes nonblank =>
    have errand := Request.Arrival.errand_eq received writes asks comes
    have errand' := Request.Arrival.errand_eq received' writes' (Envelope.ofJson_repassword word asks)
      (ControlRequest.check_repassword comes nonblank)
    obtain ⟨_, _, payload, _, read⟩ := ControlRequest.check_eq_login.1 comes
    have shown : Text.isBlankString c.password = false :=
      (Credentials.ofJson_eq_ok.1 read).2 ("password", c.password) (by simp [Credentials.fields])
    have blotted : ({ c with password := word } : Credentials).redact = c.redact := by
      rw [Credentials.redact_of_nonblank shown, Credentials.redact_of_nonblank nonblank]
    rw [map, map, map, map, errand, errand', Errand.redact, Errand.redact, Control.redact, Control.redact, blotted]
    rfl

/-- Nothing that can be seen of a service depends on the passwords of those who log in: neither the journal and the
registration, nor what the reporter is and what the engine tells it, nor what is logged of credentials, nor any line
that a connection writes, however long it waits for its answers. -/
theorem password_unseen (s : Service) {hs hs' : List (Happening Request.Arrival)}
    (alike : List.Forall₂ Happening.Alike hs hs') :
    s.glimpses (hs.map (·.map Request.Arrival.errand)) = s.glimpses (hs'.map (·.map Request.Arrival.errand)) := by
  have redacted : (hs.map (·.map Request.Arrival.errand)).map (·.map Errand.redact) =
      (hs'.map (·.map Request.Arrival.errand)).map (·.map Errand.redact) := by
    induction alike with
    | nil => rfl
    | cons first _ ih => exact congrArg₂ List.cons first.redact_eq ih
  rw [← s.glimpses_redact, redacted, s.glimpses_redact]

/-- A request to log in, as the client sends it. -/
def Request.Arrival.login (c : Credentials) : Arrival :=
  ⟨readsOf (Text.encode (ControlRequest.login c).toJson.chars ++ [lineEnd]), .closed⟩

/-- Two logins that differ in their passwords alone are alike as the client sends them. -/
lemma Happening.alike_login {c : Credentials} {word : String} (whole : c.blankField? = none)
    (nonblank : Text.isBlankString word = false)
    (short : (Text.encode (ControlRequest.login c).toJson.chars ++ [Request.lineEnd]).length ≤ Request.maxBytes)
    (short' : (Text.encode (ControlRequest.login { c with password := word }).toJson.chars
      ++ [Request.lineEnd]).length ≤ Request.maxBytes) :
    Alike (.request (.login c)) (.request (.login { c with password := word })) := by
  have comes : (ControlRequest.login c).check = .ok (some (.login c)) := by
    rw [ControlRequest.check_login, whole]
  exact .login (ControlRequest.receive_toJson (ControlRequest.portable_login c) (Request.readsOf_flatten _) short)
    (ControlRequest.receive_toJson (ControlRequest.portable_login _) (Request.readsOf_flatten _) short')
    (ControlRequest.ofBytes_login c) (ControlRequest.ofBytes_login _) rfl comes nonblank

/-- Somebody logs in, and then to no server while the disk is full. -/
theorem password_unseen_twoLogins :
    let course (first second : String) : List (Happening Request.Arrival) :=
      [.request (.login ⟨"srv", "ann", first, "desk"⟩), .handle, .work, .handle, .disk ⟨false, false⟩,
        .request (.login ⟨"srv:0", "ann", second, "desk"⟩), .handle, .work, .handle]
    let seen (hs : List (Happening Request.Arrival)) : List Glimpse :=
      (Service.start ⟨"linux"⟩ .fresh).glimpses (hs.map (·.map Request.Arrival.errand))
    List.Forall₂ Happening.Alike (course "secret" "word") (course "pass" "other") ∧
      seen (course "secret" "word") = seen (course "pass" "other") := by
  intro course seen
  have alike : List.Forall₂ Happening.Alike (course "secret" "word") (course "pass" "other") := by
    simp only [course, List.forall₂_cons, List.forall₂_nil_left_iff, Happening.Alike.same, true_and, and_true]
    exact ⟨Happening.alike_login (by decide) (by decide) (by decide +kernel) (by decide +kernel),
      Happening.alike_login (by decide) (by decide) (by decide +kernel) (by decide +kernel)⟩
  exact ⟨alike, password_unseen _ alike⟩

end FocusJournal
