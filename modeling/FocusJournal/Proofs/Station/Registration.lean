import FocusJournal.Proofs.Engine.Run
import FocusJournal.Proofs.Station.Course
import FocusJournal.Proofs.Station.Ledger
import FocusJournal.Proofs.Station.Settlement

/-!
# Registrations

Whether someone has logged in is said in three places: the reporter tells it to those who ask, the engine holds a flag,
and the journal keeps the registration of the device. They are written at different times, and two of them are lost when
the reporter ends. `Accord` says how they go together in every state, and `logins_agree` follows them over any number of
reporters that take up one journal after the other: the engine and the journal always agree, the reporter agrees with
them once it has handled all verdicts, and what is registered is the device of the last login that an engine accepted.
-/

namespace FocusJournal

/-- The credentials of a login. -/
def EngineCall.credentials? : EngineCall → Option Credentials
  | .login credentials _ _ => some credentials
  | _ => none

/-- Whether an input tells of an accepted login. -/
def Input.admits : Input → Bool
  | .loginAcked success _ _ => success
  | _ => false

/-- Only the engine tells of an accepted login. -/
lemma Input.admits_of_posted {i : Input} (hi : i.isAcknowledgment = false) : i.admits = false := by
  cases i with
  | loginAcked => cases hi
  | _ => rfl

namespace Reporter

variable {r : Reporter}

/-- A focus event logs nobody in. -/
lemma loggedIn_onFocus {event} : (r.onFocus event).1.loggedIn = r.loggedIn := by
  unfold onFocus
  split <;> rfl

/-- The acknowledgment of a start logs nobody in. -/
lemma loggedIn_onStartAcked {success origin} : (r.onStartAcked success origin).1.loggedIn = r.loggedIn := by
  simp only [onStartAcked]
  split
  · simp only [settle]
    split <;> rfl
  · cases success <;> cases origin <;> rfl

end Reporter

/-- Someone has logged in once an input has told of it. -/
lemma Deed.loggedIn_eq (d : Deed) : d.after.loggedIn = (d.before.loggedIn || d.input.admits) := by
  obtain ⟨r, recording, i⟩ := d
  simp only [Deed.after]
  cases i with
  | notification n =>
    simp only [Reporter.handle, Input.admits, Bool.or_false]
    split
    · exact Reporter.loggedIn_onFocus
    · rfl
  | focus event => simpa [Reporter.handle, Input.admits] using Reporter.loggedIn_onFocus
  | startAcked success origin => simpa [Reporter.handle, Input.admits] using Reporter.loggedIn_onStartAcked
  | loginAcked success id asker => rfl
  | control control id asker => cases control <;> simp [Reporter.handle, Reporter.onControl, Input.admits]

/-- A row that is written leaves the registration as it is. -/
@[simp] lemma Journal.write_registration (j : Journal) (kind : RowKind) (app : Option String) :
    (j.write kind app).registration = j.registration := rfl

/-- A recorder takes a journal up with its registration. -/
lemma Recorder.registration_of_open? {j : Journal} {r : Recorder} (ho : Recorder.open? j = some r) :
    r.journal.registration = j.registration ∧ r.registered = j.registration.isSome := by
  obtain ⟨j', rfl, ⟨_, rfl⟩ | ⟨_, _, rfl⟩⟩ := Recorder.open?_eq_some.1 ho <;> exact ⟨rfl, rfl⟩

/-- A login that is accepted registers its device, and no other call does. -/
lemma Upshot.registration_eq {r r' : Recorder} {c success} (up : Upshot r c r' success) :
    r'.journal.registration =
      if success then (c.credentials?.map Recorder.registrationOf).or r.journal.registration
      else r.journal.registration := by
  cases up <;> rfl

/-- A recorder knows of a registration if it did before or the answer to the call tells of one. -/
lemma Upshot.registered_eq_or {r r' : Recorder} {c success} (up : Upshot r c r' success) :
    r'.registered = (r.registered || (c.acknowledgment success).any Input.admits) := by
  cases up <;> simp [EngineCall.acknowledgment, Input.admits]

/-- A device is registered if one was before or the answer to the call tells of one. -/
lemma Upshot.registration_isSome {r r' : Recorder} {c success} (up : Upshot r c r' success) :
    r'.journal.registration.isSome =
      (r.journal.registration.isSome || (c.acknowledgment success).any Input.admits) := by
  cases up <;> simp [EngineCall.acknowledgment, Input.admits]

namespace Station

/-- The engine's answer to a login. -/
def Event.ruling? : Event → Option (Credentials × Bool)
  | .applied c success => c.credentials?.map (·, success)
  | .handled _ _ => none

namespace Trace

/-- The logins that the reporter passed on to the engine. -/
def logins (t : Trace) : List Credentials := t.calls.filterMap EngineCall.credentials?

/-- What the engine made of logins. -/
def rulings (t : Trace) : List (Credentials × Bool) := t.filterMap Event.ruling?

/-- The credentials of the logins that the engine accepted. -/
def accepted (t : Trace) : List Credentials := (t.rulings.filter Prod.snd).map Prod.fst

variable (t t' : Trace)

/-- The rulings of a longer trace are those of its parts. -/
@[simp] lemma rulings_append : rulings (t ++ t') = t.rulings ++ t'.rulings := List.filterMap_append

/-- The logins that a longer trace accepts are those of its parts. -/
@[simp] lemma accepted_append : accepted (t ++ t') = t.accepted ++ t'.accepted := by simp [accepted]

/-- Each login that is applied is ruled on. -/
lemma rulings_map_fst : t.rulings.map Prod.fst = t.applied.filterMap EngineCall.credentials? := by
  rw [rulings, applied, List.map_filterMap, List.filterMap_filterMap]
  congr
  funext x
  cases x with
  | handled => rfl
  | applied c success => cases c <;> rfl

end Trace

/-- The reporter does the deed of the oldest input, and its calls go to the end of the queue. -/
lemma turn_deed {s : Station JournalEngine} {i rest} (alive : s.engine.alive = true) (hi : s.inbox = i :: rest) :
    s.turn .handle =
      (⟨(s.deed i).after, ⟨s.engine.recorder, s.engine.queue ++ (s.deed i).calls, s.engine.alive⟩, rest⟩,
        ⟨(s.deed i).answers, (s.deed i).calls⟩) := by
  have eq : s.turn .handle = Station.process ⟨s.reporter, s.engine, rest⟩ i := by
    simp only [turn, next?, hi, Option.getD_some]
  rw [eq, process_eq, submitAll_alive _ alive, List.append_nil]
  rfl

/-- What the reporter, the engine and the journal say of logins goes together. -/
structure Accord (s : Station JournalEngine) : Prop where
  registered : s.engine.recorder.registered = s.engine.recorder.journal.registration.isSome
  /-- The reporter, or an input that waits, tells of a login exactly where a device is registered. -/
  told : (s.reporter.loggedIn || s.inbox.any Input.admits) = s.engine.recorder.registered

/-- A login that the engine accepts replaces what was registered, and nothing else does. -/
lemma Step.registration_eq {s e s'} (st : Step s e s') (alive : s.engine.alive = true) :
    s'.engine.recorder.journal.registration =
      (e.accepted.getLast?.map Recorder.registrationOf).or s.engine.recorder.journal.registration := by
  cases st with
  | post _ => rfl
  | handle hi =>
    rw [turn_deed alive hi]
    rfl
  | @work c rest hq =>
    have up := JournalEngine.apply_upshot s.engine.recorder c
    rw [turn_work hq, up.registration_eq]
    cases (JournalEngine.apply s.engine.recorder c).2 <;> cases c <;> rfl
  | disk => rfl

namespace Run

variable {s₀ s : Station JournalEngine} {t : Trace}

/-- What is registered after a run is the device of the last login that was accepted in it, or else what was before. -/
lemma registration_eq (run : Run s₀ t s) (alive : s₀.engine.alive = true) :
    s.engine.recorder.journal.registration =
      (t.accepted.getLast?.map Recorder.registrationOf).or s₀.engine.recorder.journal.registration := by
  induction run with
  | refl => rfl
  | @step t s e s' run st ih =>
    rw [st.registration_eq (run.alive alive), ih, Trace.accepted_append, List.getLast?_append]
    cases e.accepted.getLast? <;> rfl

/-- The engine rules on logins once each and in the order in which they were passed on to it. -/
lemma rulings_prefix (run : Run s₀ t s) (alive : s₀.engine.alive = true) (hq : s₀.engine.queue = []) :
    t.rulings.map Prod.fst <+: t.logins := by
  have calls := run.calls_eq alive
  rw [hq, List.nil_append] at calls
  rw [Trace.logins, calls, List.filterMap_append, Trace.rulings_map_fst]
  exact List.prefix_append _ _

end Run

/-- Reporters one after the other, each of which takes up the journal that the one before it left behind when it ended,
with whatever waited then. They are told by their runs. -/
inductive Lives (s₀ : Station JournalEngine) : List Trace → Station JournalEngine → Prop where
  | first {t s} :
    Run s₀ t s →
    Lives s₀ [t] s
  | next {ts s platform engine t s'} :
    Lives s₀ ts s →
    JournalEngine.open? s.engine.recorder.journal = some engine →
    Run (start platform engine) t s' →
    Lives s₀ (ts ++ [t]) s'

namespace Accord

variable {s s' : Station JournalEngine}

/-- At the start, the engine and the journal agree, and the reporter asks the engine. -/
lemma start {platform j engine} (ho : JournalEngine.open? j = some engine) : Accord (start platform engine) := by
  obtain ⟨r, hr, rfl⟩ := JournalEngine.open?_eq_some.1 ho
  obtain ⟨registration, registered⟩ := Recorder.registration_of_open? hr
  refine ⟨?_, Bool.or_false _⟩
  rw [Station.start, registration]
  exact registered

/-- A step keeps what is said of logins together. -/
lemma step {e} (ac : Accord s) (st : Step s e s') (alive : s.engine.alive = true) : Accord s' := by
  cases st with
  | @post i hi =>
    refine ⟨ac.registered, ?_⟩
    simpa [turn, Station.post, Input.admits_of_posted hi] using ac.told
  | @handle i rest hi =>
    have told := ac.told
    rw [hi, List.any_cons, ← Bool.or_assoc] at told
    rw [turn_deed alive hi]
    refine ⟨ac.registered, ?_⟩
    rw [Deed.loggedIn_eq]
    exact told
  | @work c rest hq =>
    have up := JournalEngine.apply_upshot s.engine.recorder c
    rw [turn_work hq]
    refine ⟨?_, ?_⟩
    · rw [up.registered_eq_or, up.registration_isSome, ac.registered]
    · rw [List.any_append, ← Bool.or_assoc, ac.told, ← up.registered_eq_or]
  | disk => exact ⟨ac.registered, ac.told⟩

/-- A run keeps what is said of logins together. -/
lemma run {t} (ac : Accord s) (run : Run s t s') (alive : s.engine.alive = true) : Accord s' := by
  induction run with
  | refl => exact ac
  | step run st ih => exact ih.step st (run.alive alive)

/-- What the reporter tells is true. -/
lemma registered_of_loggedIn (ac : Accord s) (h : s.reporter.loggedIn = true) : s.engine.recorder.registered = true := by
  rw [← ac.told, h]
  rfl

end Accord

/-- Neither the reporter nor the engine forgets a login. -/
lemma Step.keeps_login {s e s'} (st : Step s e s') (alive : s.engine.alive = true) :
    (s.reporter.loggedIn = true → s'.reporter.loggedIn = true) ∧
      (s.engine.recorder.registered = true → s'.engine.recorder.registered = true) := by
  cases st with
  | post _ => exact ⟨id, id⟩
  | @handle i rest hi =>
    rw [turn_deed alive hi]
    refine ⟨fun h => ?_, id⟩
    have before : (s.deed i).before.loggedIn = true := h
    rw [Deed.loggedIn_eq, before]
    rfl
  | @work c rest hq =>
    have up := JournalEngine.apply_upshot s.engine.recorder c
    rw [turn_work hq]
    refine ⟨id, fun h => ?_⟩
    rw [up.registered_eq_or, h]
    rfl
  | disk => exact ⟨id, id⟩

/-- In the course of a run neither of them forgets a login. -/
lemma Run.keeps_login {s t s'} (run : Run s t s') (alive : s.engine.alive = true) :
    (s.reporter.loggedIn = true → s'.reporter.loggedIn = true) ∧
      (s.engine.recorder.registered = true → s'.engine.recorder.registered = true) := by
  induction run with
  | refl => exact ⟨id, id⟩
  | step run st ih =>
    have kept := st.keeps_login (run.alive alive)
    exact ⟨kept.1 ∘ ih.1, kept.2 ∘ ih.2⟩

namespace Lives

variable {s₀ s : Station JournalEngine} {ts : List Trace}

/-- The engine of the present reporter has a worker. -/
lemma alive (lives : Lives s₀ ts s) (alive : s₀.engine.alive = true) : s.engine.alive = true := by
  cases lives with
  | first run => exact run.alive alive
  | next _ ho run => exact run.alive (Fresh.opened ho).alive

/-- The reporter that is there agrees with its engine and with the journal, as the first one did. -/
lemma accord (lives : Lives s₀ ts s) (ac : Accord s₀) (alive : s₀.engine.alive = true) : Accord s := by
  cases lives with
  | first run => exact ac.run run alive
  | next _ ho run => exact (Accord.start ho).run run (Fresh.opened ho).alive

/-- A new reporter and a new engine know of a login from the journal. -/
lemma keeps_login (lives : Lives s₀ ts s) (ac : Accord s₀) (alive : s₀.engine.alive = true) :
    (s₀.reporter.loggedIn = true → s.reporter.loggedIn = true) ∧
      (s₀.engine.recorder.registered = true → s.engine.recorder.registered = true) := by
  induction lives with
  | first run => exact run.keeps_login alive
  | @next ts s platform engine t s' lives ho run ih =>
    have renewed : s.engine.recorder.registered = true → engine.recorder.registered = true := by
      intro h
      obtain ⟨r, hr, rfl⟩ := JournalEngine.open?_eq_some.1 ho
      rw [(lives.accord ac alive).registered] at h
      rw [← h]
      exact (Recorder.registration_of_open? hr).2
    have kept := run.keeps_login (Fresh.opened ho).alive
    -- A reporter begins with what its engine says, and the one before was right about that.
    refine ⟨fun h => kept.1 ?_, fun h => kept.2 (renewed (ih.2 h))⟩
    exact renewed ((lives.accord ac alive).registered_of_loggedIn (ih.1 h))

/-- What is registered is the device of the last login that was accepted in any life, or else what was before. -/
lemma registration_eq (lives : Lives s₀ ts s) (alive : s₀.engine.alive = true) :
    s.engine.recorder.journal.registration =
      ((ts.flatMap Trace.accepted).getLast?.map Recorder.registrationOf).or
        s₀.engine.recorder.journal.registration := by
  induction lives with
  | first run => simpa using run.registration_eq alive
  | @next ts s platform engine t s' lives ho run ih =>
    obtain ⟨r, hr, rfl⟩ := JournalEngine.open?_eq_some.1 ho
    have taken_up : r.journal.registration = s.engine.recorder.journal.registration :=
      (Recorder.registration_of_open? hr).1
    have eq := run.registration_eq (Fresh.opened ho).alive
    rw [eq, Station.start, taken_up, ih, List.flatMap_append, List.getLast?_append, List.flatMap_singleton]
    cases t.accepted.getLast? <;> rfl

/-- In each life, the engine rules on logins once each and in order. -/
lemma rulings_prefix (lives : Lives s₀ ts s) (alive : s₀.engine.alive = true) (hq : s₀.engine.queue = []) :
    ∀ t ∈ ts, t.rulings.map Prod.fst <+: t.logins := by
  induction lives with
  | first run => simpa using run.rulings_prefix alive hq
  | @next _ _ platform _ _ _ _ ho run ih =>
    have fresh : Fresh (start platform _) := .opened ho
    rw [List.forall_mem_append]
    exact ⟨ih, by simpa using run.rulings_prefix fresh.alive fresh.eq.2.2.2.2.1⟩

end Lives

/-- In the lives of any number of reporters on one journal, in any state, the engine knows of a registration exactly if
the journal holds one, and what the reporter says of it is true, though perhaps late: when nothing is left to do, it
tells those who ask what the journal says. What any of them knows of a login is not forgotten, also by those that come
after. The engine rules on logins in the order in which they were passed on, and what is registered is the device of the
last one that was accepted, without the blanks around its names. -/
theorem logins_agree {platform : Platform} {j : Journal} {engine ts s} (ho : JournalEngine.open? j = some engine)
    (lives : Lives (start platform engine) ts s) :
    let registered := s.engine.recorder.registered
    let stored := s.engine.recorder.journal.registration
    registered = stored.isSome ∧
      (s.reporter.loggedIn = true → registered = true) ∧
      (s.isQuiescent = true → s.reporter.loggedIn = registered ∧ ∀ recording id asker,
        (s.reporter.handle recording (.control .checkLogin id asker)).2 = [.answer asker (.truth id registered)]) ∧
      (∀ {ts' s'}, Lives s ts' s' →
        (s.reporter.loggedIn = true → s'.reporter.loggedIn = true) ∧
          (registered = true → s'.engine.recorder.registered = true) ∧
          (stored.isSome = true → s'.engine.recorder.journal.registration.isSome = true)) ∧
      (∀ t ∈ ts, t.rulings.map Prod.fst <+: t.logins) ∧
      stored = (ts.flatMap Trace.accepted).getLast?.elim j.registration fun c =>
        some ⟨Text.trim c.server, Text.trim c.username, Text.trim c.device, ""⟩ := by
  have fresh : Fresh (start platform engine) := .opened ho
  have alive := lives.alive fresh.alive
  have ac := lives.accord (.start ho) fresh.alive
  refine ⟨ac.registered, ac.registered_of_loggedIn, fun hs => ?_, fun lives' => ?_,
    lives.rulings_prefix fresh.alive fresh.eq.2.2.2.2.1, ?_⟩
  · have told := ac.told
    rw [(isQuiescent_iff.1 hs).1, List.any_nil, Bool.or_false] at told
    refine ⟨told, fun recording id asker => ?_⟩
    rw [← told]
    rfl
  · have kept := lives'.keeps_login ac alive
    refine ⟨kept.1, kept.2, ?_⟩
    rw [← ac.registered, ← (lives'.accord ac alive).registered]
    exact kept.2
  · obtain ⟨r, hr, rfl⟩ := JournalEngine.open?_eq_some.1 ho
    rw [lives.registration_eq fresh.alive, Station.start, (Recorder.registration_of_open? hr).1]
    cases (ts.flatMap Trace.accepted).getLast? <;> rfl

/-- The request to register a device with a server. -/
def enrol (server : String) : Input := .control (.login ⟨server, "u", "p", "dev"⟩) none 0

/-- A login is accepted and the next one is not; a third one waits for the engine when the reporter ends. -/
def enrolled : List Turn := [
  .post (enrol " srv "), .handle, .work, .handle, .post (enrol "srv:0"), .handle, .work, .post (enrol "late"), .handle]

/-- The next reporter knows of the login, and the disk refuses what it would register. -/
theorem logins_agree_overLives :
    ∃ ts s, Lives (opened none) ts s ∧ ts.map Trace.rulings =
        [[(⟨" srv ", "u", "p", "dev"⟩, true), (⟨"srv:0", "u", "p", "dev"⟩, false)],
          [(⟨"other", "u", "p", "dev"⟩, false)]] ∧
      s.reporter.loggedIn = true ∧ s.engine.recorder.journal.registration = some ⟨"srv", "u", "dev", ""⟩ := by
  let s₁ := ((opened none).play enrolled).1
  let engine : JournalEngine := ⟨⟨s₁.engine.recorder.journal, false, true, none⟩, [], true⟩
  let s₂ := start ⟨"linux"⟩ engine
  have ho : JournalEngine.open? s₁.engine.recorder.journal = some engine := rfl
  have first : Run (opened none) _ s₁ := .play (by simp [enrolled, enrol, Input.isAcknowledgment])
  have refusing : Run s₂ [] (s₂.onDisk ⟨true, false⟩) := Run.refl.step .disk
  have refused : Run (s₂.onDisk ⟨true, false⟩) _ (play _ [.post (enrol "other"), .handle, .work, .handle]).1 :=
    .play (by simp [enrol, Input.isAcknowledgment])
  have lives := (Lives.first first).next ho (refusing.trans refused)
  have opening : JournalEngine.open? ⟨[], none, true, true⟩ = some (opened none).engine := rfl
  obtain ⟨_, _, atRest, _, _, stored⟩ := logins_agree opening lives
  refine ⟨_, _, lives, by decide, ?_, ?_⟩
  · exact (atRest (by decide)).1.trans (by decide)
  · exact stored.trans (by decide)

end Station

end FocusJournal
