import FocusJournal.Proofs.Engine.Run
import FocusJournal.Proofs.Recorder.Span

/-!
# What an engine answers

Starts and logins are answered once each and in the order of the calls: what was answered and what waits in the queue
make up what was asked (`Run.tickets_eq`). The answers are true: a start is granted if and only if the engine then
records, a refusal has changed nothing, and a login that is granted has changed the registration only (`Truthful`).

A switch is not answered, but it does not pretend either. One whose row was refused leaves no trace, so that the next
switch to the same application is no repetition: `Run.tries`.
-/

namespace FocusJournal

/-- What an answer is matched to its call by. -/
inductive Ticket where
  | start (origin : StartOrigin)
  | login (id : Option String) (asker : Asker)

/-- The ticket that a call is given, if it is to be answered. -/
def EngineCall.ticket? : EngineCall → Option Ticket
  | .start origin => some (.start origin)
  | .stop => none
  | .switchUrl _ => none
  | .login _ id asker => some (.login id asker)

/-- The ticket that an acknowledgment answers. -/
def Input.ticket? : Input → Option Ticket
  | .startAcked _ origin => some (.start origin)
  | .loginAcked _ id asker => some (.login id asker)
  | _ => none

/-- The acknowledgment of a call is its only answer. -/
@[simp] lemma EngineCall.acknowledgment_ticket (c : EngineCall) (success : Bool) :
    (c.acknowledgment success).filterMap Input.ticket? = c.ticket?.toList := by
  cases c <;> rfl

/-- A call came out as the answer says, and a refusal has changed nothing. -/
structure Truthful (r : Recorder) (c : EngineCall) (r' : Recorder) (success : Bool) : Prop where
  started : ∀ origin, c = .start origin → (success = true ↔ r'.tracking = true)
  refused : success = false → r' = r
  registered : ∀ credentials id asker, c = .login credentials id asker → success = true →
    r' = { r with
      journal := { r.journal with registration := some (Recorder.registrationOf credentials) }
      registered := true }

/-- A switch to a URL is no repetition: its row is written if the disk takes it. -/
def Recorder.Tries (r : Recorder) (url : String) : Prop :=
  ∀ d : Disk, d.events = true →
    ((r.onDisk d).switch url).journal.lines = r.journal.lines ++ [.switch (appName url)]

/-- What a call comes to is truthful. -/
lemma Upshot.truthful {r r' : Recorder} {c success} (up : Upshot r c r' success) : Truthful r c r' success := by
  cases up with
  | running ht => exact ⟨fun _ _ => by simp [ht], nofun, nofun⟩
  | unregistered ht hr => exact ⟨fun _ _ => by simp [ht], fun _ => rfl, nofun⟩
  | unopened ht hr hd => exact ⟨fun _ _ => by simp [ht], fun _ => rfl, nofun⟩
  | opened ht hr hd => exact ⟨fun _ _ => by simp, nofun, nofun⟩
  | rejected ha => exact ⟨nofun, fun _ => rfl, nofun⟩
  | unsaved ha hd => exact ⟨nofun, fun _ => rfl, nofun⟩
  | registered ha hd =>
    refine ⟨nofun, nofun, ?_⟩
    rintro credentials id asker h _
    cases h
    rfl
  | _ => exact ⟨nofun, nofun, nofun⟩

namespace Recorder

variable {r : Recorder} {url : String}

/-- A switch is tried while the recorder records, unless it remembers the application. -/
lemma tries_iff : r.Tries url ↔ r.tracking = true ∧ r.app ≠ some (appName url) := by
  constructor
  · intro tr
    have up := JournalEngine.switch_upshot (r.onDisk ⟨true, true⟩) url
    have lines := tr ⟨true, true⟩ rfl
    generalize (r.onDisk ⟨true, true⟩).switch url = r' at up lines
    have same : (r.onDisk ⟨true, true⟩).journal.lines = r.journal.lines := rfl
    cases up with
    | noted ht ha _ => exact ⟨ht, ha⟩
    | _ => simp [same] at lines
  · rintro ⟨ht, ha⟩ d hd
    have up := JournalEngine.switch_upshot (r.onDisk d) url
    generalize (r.onDisk d).switch url = r' at up
    cases up with
    | discarded hn => exact absurd (ht.symm.trans hn) (by decide)
    | repeated _ happ => exact absurd happ ha
    | unnoted _ _ hn => exact absurd (hd.symm.trans hn) (by decide)
    | noted _ _ _ => exact Journal.lines_write _ _ _

end Recorder

namespace JournalEngine

/-- The call that is made in an event. -/
def Event.asked? : Event → Option EngineCall
  | .asked c => some c
  | _ => none

/-- The answers that an event brings. -/
def Event.answers : Event → List Input
  | .applied c _ success => c.acknowledgment success
  | _ => []

/-- Whether a switch to an application is applied in an event. -/
def Event.switchesTo (app : String) : Event → Bool
  | .applied (.switchUrl url) _ _ => appName url = app
  | _ => false

namespace Trace

/-- The starts and logins that were asked for. -/
def tickets (t : Trace) : List Ticket := (t.filterMap Event.asked?).filterMap EngineCall.ticket?

/-- The starts and logins that were answered. -/
def answered (t : Trace) : List Ticket := (t.flatMap Event.answers).filterMap Input.ticket?

end Trace

/-- The tickets of a longer run are those of its parts. -/
@[simp] lemma Trace.tickets_append (t t' : Trace) : tickets (t ++ t') = t.tickets ++ t'.tickets := by simp [tickets]

/-- The answered tickets of a longer run are those of its parts. -/
@[simp] lemma Trace.answered_append (t t' : Trace) : answered (t ++ t') = t.answered ++ t'.answered := by
  simp [answered]

/-- The starts and logins that wait for the worker. -/
def waiting (e : JournalEngine) : List Ticket := e.queue.filterMap EngineCall.ticket?

/-- A switch has changed nothing, and the next one to the same application is no repetition. -/
structure Forgotten (e : JournalEngine) (url : String) (e' : JournalEngine) : Prop where
  unchanged : e'.recorder = e.recorder
  next : ∀ {t e'' url'}, Run e' t e'' → (∀ x ∈ t, x.switchesTo (appName url) = false) → appName url' = appName url →
    e''.recorder.tracking = true → e''.recorder.Tries url'

/-! ## Each once and in order -/

/-- The worker stays, what is asked for joins what waits at the end, and what is answered leaves at the front. -/
lemma Step.tickets_eq {e x e'} (st : Step e x e') (alive : e.alive = true) (kept : ∀ y ∈ x, y.replaces = false) :
    e'.alive = true ∧ x.answered ++ e'.waiting = e.waiting ++ x.tickets := by
  cases st with
  | @ask c =>
    cases h : c.ticket? <;>
      simp [submit, alive, waiting, Trace.answered, Trace.tickets, Event.answers, Event.asked?, h]
  | @work c rest _ acks hq hw =>
    rw [work?_eq hq] at hw
    cases hw
    cases h : c.ticket? <;>
      simp [alive, waiting, hq, Trace.answered, Trace.tickets, Event.answers, Event.asked?, h]
  | disk => simp [alive, waiting, Trace.answered, Trace.tickets]
  | reopen _ => simp [Event.replaces] at kept

namespace Run

/-- In a run without another engine, those that are answered and those that still wait are those that waited or were
asked for, in order. -/
lemma tickets_eq {e₀ t e} (run : Run e₀ t e) (alive : e₀.alive = true) (kept : ∀ x ∈ t, x.replaces = false) :
    e.alive = true ∧ t.answered ++ e.waiting = e₀.waiting ++ t.tickets := by
  induction run with
  | refl => exact ⟨alive, by simp [Trace.answered, Trace.tickets]⟩
  | @step t e x e' run st ih =>
    rw [List.forall_mem_append] at kept
    obtain ⟨alive', eq⟩ := ih kept.1
    obtain ⟨alive'', eq'⟩ := st.tickets_eq alive' kept.2
    refine ⟨alive'', ?_⟩
    rw [Trace.answered_append, Trace.tickets_append, List.append_assoc, eq', ← List.append_assoc, eq, List.append_assoc]

end Run

/-- The worker can always work the queue off. -/
lemma exists_idle (e : JournalEngine) :
    ∃ t e', Run e t e' ∧ (∀ x ∈ t, x.replaces = false) ∧ t.tickets = [] ∧ e'.waiting = [] := by
  generalize hq : e.queue = queue
  induction queue generalizing e with
  | nil => exact ⟨[], e, .refl, nofun, rfl, by simp [waiting, hq]⟩
  | cons c rest ih =>
    have st := Step.work hq (work?_eq hq)
    obtain ⟨t, e', run, kept, none, idle⟩ := ih ⟨(apply e.recorder c).1, rest, e.alive⟩ rfl
    refine ⟨_, e', (Run.refl.step st).trans run, ?_, ?_, idle⟩
    · simpa [Event.replaces] using kept
    · rw [Trace.tickets_append, none]
      rfl

/-! ## The next switch -/

/-- An application is remembered when it is switched to, and at no other time. -/
lemma Change.app_ne {r x r' app} (ch : Change r x r') (ha : r.app ≠ some app)
    (hx : ∀ y ∈ x, y.switchesTo app = false) : r'.app ≠ some app := by
  cases ch with
  | ask => exact ha
  | work up =>
    cases up with
    | noted _ _ _ => simpa [Event.switchesTo] using hx
    | opened _ _ _ => nofun
    | unclosed _ _ => nofun
    | closed _ _ => nofun
    | _ => exact ha
  | disk => exact ha
  | reopen ho =>
    obtain ⟨j, rfl, _⟩ := Recorder.open?_eq_some.1 ho
    nofun

/-- No application is remembered in a run that does not switch to it. -/
lemma Run.app_ne {e₀ t e app} (run : Run e₀ t e) (ha : e₀.recorder.app ≠ some app)
    (hx : ∀ x ∈ t, x.switchesTo app = false) : e.recorder.app ≠ some app := by
  revert hx
  refine run.keeps (P := fun t r => (∀ x ∈ t, x.switchesTo app = false) → r.app ≠ some app) (fun _ => ha) ?_
  intro t r x r' ih ch hx
  rw [List.forall_mem_append] at hx
  exact ch.app_ne (ih hx.1) hx.2

/-- A switch whose row is refused is forgotten. -/
lemma forgotten {e e' : JournalEngine} {url : String} (up : Upshot e.recorder (.switchUrl url) e'.recorder true)
    (tr : e.recorder.Tries url) (hd : e.recorder.disk.events = false) : Forgotten e url e' := by
  obtain ⟨ht, ha⟩ := Recorder.tries_iff.1 tr
  have same : e'.recorder = e.recorder := by
    generalize e'.recorder = r' at up
    cases up with
    | noted _ _ hn => exact absurd (hd.symm.trans hn) (by decide)
    | _ => rfl
  refine ⟨same, ?_⟩
  intro t e'' url' run hx app ht'
  rw [← same] at ha
  exact Recorder.tries_iff.2 ⟨ht', app ▸ run.app_ne ha hx⟩

/-! ## All answers -/

/-- As long as an engine is not replaced, it has answered the starts and logins that do not wait, each once and in the
order of the calls, and it can answer the others. When its worker applies a call, it answers truthfully, and a switch
whose row is refused is forgotten. -/
theorem answers_true {j e₀ t e} (opened : JournalEngine.open? j = some e₀) (run : Run e₀ t e)
    (kept : ∀ x ∈ t, x.replaces = false) :
    t.answered ++ e.waiting = t.tickets ∧
      (∃ t' e', Run e t' e' ∧ (t ++ t').tickets = t.tickets ∧ (t ++ t').answered = t.tickets) ∧
      ∀ {c rest}, e.queue = c :: rest → ∃ e' success,
        e.work? = some (e', c.acknowledgment success) ∧ Step e [.applied c e.recorder.disk success] e' ∧
          Truthful e.recorder c e'.recorder success ∧
          ∀ url, c = .switchUrl url → e.recorder.Tries url → e.recorder.disk.events = false → Forgotten e url e' := by
  obtain ⟨r, _, rfl⟩ := open?_eq_some.1 opened
  obtain ⟨alive, answered⟩ := run.tickets_eq rfl kept
  refine ⟨answered, ?_, ?_⟩
  · obtain ⟨t', e', run', kept', none, idle⟩ := exists_idle e
    obtain ⟨_, answered'⟩ := run'.tickets_eq alive kept'
    rw [idle, none, List.append_nil, List.append_nil] at answered'
    refine ⟨t', e', run', by simp [none], ?_⟩
    rw [Trace.answered_append, answered', answered]
    rfl
  · intro c rest hq
    have up := apply_upshot e.recorder c
    refine ⟨_, _, work?_eq hq, .work hq (work?_eq hq), up.truthful, ?_⟩
    rintro url rfl tr hd
    exact forgotten up tr hd

/-- With a full disk the row of a switch is refused, and once there is room the next page of the same site has its row
written. -/
theorem answers_true_fullDisk :
    ∃ t e e', Run unused t e ∧ e.work? = some (e', []) ∧ Forgotten e "https://a.example/1" e' ∧
      ((e'.recorder.onDisk ⟨true, true⟩).switch "https://a.example/2").journal.lines =
        [.start, .switch "a.example"] := by
  have begun : Run unused [] unused := .refl
  have registered := begun.call rfl rfl (.login ⟨"srv", "u", "p", "dev"⟩ none 0)
  have started := registered.call rfl rfl (.start .user)
  have full := started.step (.disk (d := ⟨false, true⟩))
  have visited := full.step (.ask (c := .switchUrl "https://a.example/1"))
  obtain ⟨_, _, worked⟩ := answers_true (j := .fresh) rfl visited (by decide)
  obtain ⟨e', success, work, _, _, retried⟩ := worked rfl
  have fo : Forgotten _ "https://a.example/1" e' :=
    retried _ rfl (Recorder.tries_iff.2 ⟨by decide, by decide +kernel⟩) (by decide)
  refine ⟨_, _, e', visited, work, fo, ?_⟩
  have again : e'.recorder.Tries "https://a.example/2" :=
    fo.next .refl nofun (by decide +kernel) (by rw [fo.unchanged]; decide)
  rw [again ⟨true, true⟩ rfl, fo.unchanged]
  decide +kernel

end JournalEngine

end FocusJournal
