import FocusJournal.Engine.Journaling
import FocusJournal.Proofs.Recorder.Upshot
import FocusJournal.Proofs.Reporter.Reaction

/-!
# Runs

How a reporter with its journaling engine gets from one state to another. In a step someone posts an input, the reporter
handles the oldest input, the worker applies the oldest call, or the disk begins or ceases to refuse writes; a run is
any number of steps in any order, and it is told by the list of its events. A station is `Reachable` if a run leads to
it from a station on a journal just opened.

The main statements are `turn_handle` and `turn_work`, which say what a step of the reporter and one of the worker come
to, `Run.split`, which finds the states around an event, and `Run.begun_eq`: starts are answered once each and in the
order in which they were asked for. `Run.unarmed` carries what reactions have in common over to runs, and `Run.play`
makes a run of turns that can be computed.
-/

namespace FocusJournal

/-- The answer that an effect is. -/
def Effect.answer? : Effect → Option Answer
  | .call _ => none
  | .answer asker response => some ⟨asker, response⟩

/-- Whether only the engine posts an input. -/
def Input.isAcknowledgment : Input → Bool
  | .startAcked _ _ => true
  | .loginAcked _ _ _ => true
  | _ => false

/-- An input that someone else posts answers no start. -/
lemma Input.told?_of_posted {i : Input} (hi : i.isAcknowledgment = false) : i.told? = none := by
  cases i with
  | startAcked => cases hi
  | _ => rfl

/-- An input that someone else posts has no verdict in it. -/
lemma Input.verdict?_of_posted {i : Input} (hi : i.isAcknowledgment = false) : i.verdict? = none := by
  cases i with
  | startAcked => cases hi
  | _ => rfl

namespace Station

/-- What happens in a step and leaves a trace. -/
inductive Event where
  | handled (i : Input) (done : Outcome)
  | applied (c : EngineCall) (success : Bool)

namespace Event

/-- The calls that the reporter makes in an event. -/
def calls : Event → List EngineCall
  | .handled _ done => done.calls
  | .applied _ _ => []

/-- The input that the reporter handles in an event. -/
def input? : Event → Option Input
  | .handled i _ => some i
  | .applied _ _ => none

/-- The call that the worker applies in an event. -/
def applied? : Event → Option EngineCall
  | .handled _ _ => none
  | .applied c _ => some c

/-- The word that the reporter hears in an event. -/
def word? (x : Event) : Option Word := x.input?.bind Input.word?

/-- The verdict that the reporter hears in an event. -/
def verdict? (x : Event) : Option Bool := x.input?.bind Input.verdict?

end Event

/-- The events of a run. -/
abbrev Trace := List Event

namespace Trace

/-- The inputs that the reporter handled. -/
def inputs (t : Trace) : List Input := t.filterMap Event.input?

/-- The calls that the reporter made. -/
def calls (t : Trace) : List EngineCall := t.flatMap Event.calls

/-- The calls that the worker applied. -/
def applied (t : Trace) : List EngineCall := t.filterMap Event.applied?

/-- What was said about the wish to be tracked. -/
def words (t : Trace) : List Word := t.filterMap Event.word?

/-- What the reporter was told of starts. -/
def verdicts (t : Trace) : List Bool := t.filterMap Event.verdict?

/-- The starts and stops that the reporter asked for. -/
def marks (t : Trace) : List EventKind := t.calls.filterMap EngineCall.mark?

/-- The starts that the reporter asked for. -/
def begun (t : Trace) : List StartOrigin := t.calls.filterMap EngineCall.begun?

/-- The starts that the reporter was answered. -/
def told (t : Trace) : List StartOrigin := t.inputs.filterMap Input.told?

variable (t t' : Trace)

/-- The inputs of a longer trace are those of its parts. -/
@[simp] lemma inputs_append : inputs (t ++ t') = t.inputs ++ t'.inputs := List.filterMap_append

/-- The calls of a longer trace are those of its parts. -/
@[simp] lemma calls_append : calls (t ++ t') = t.calls ++ t'.calls := List.flatMap_append

/-- The calls that are applied in a longer trace are those of its parts. -/
@[simp] lemma applied_append : applied (t ++ t') = t.applied ++ t'.applied := List.filterMap_append

/-- The words in a longer trace are those in its parts. -/
@[simp] lemma words_append : words (t ++ t') = t.words ++ t'.words := List.filterMap_append

/-- The verdicts of a longer trace are those of its parts. -/
@[simp] lemma verdicts_append : verdicts (t ++ t') = t.verdicts ++ t'.verdicts := List.filterMap_append

/-- The starts and stops of a longer trace are those of its parts. -/
@[simp] lemma marks_append : marks (t ++ t') = t.marks ++ t'.marks := by simp [marks]

/-- The starts that a longer trace begins are those of its parts. -/
@[simp] lemma begun_append : begun (t ++ t') = t.begun ++ t'.begun := by simp [begun]

/-- The starts that a longer trace answers are those of its parts. -/
@[simp] lemma told_append : told (t ++ t') = t.told ++ t'.told := by simp [told]

/-- A start is begun in an event that calls for it. -/
lemma mem_begun {t : Trace} {origin} : origin ∈ t.begun ↔ ∃ x ∈ t, .start origin ∈ x.calls := by
  simp [begun, calls, EngineCall.begun?_eq_some]

/-- Where nothing happens, nothing is started or stopped. -/
@[simp] lemma marks_nil : marks [] = [] := rfl

/-- Where nothing happens, nothing is said. -/
@[simp] lemma words_nil : words [] = [] := rfl

/-- The word of the first event comes before those of the others. -/
@[simp] lemma words_cons (x : Event) : words (x :: t) = x.word?.toList ++ t.words := by
  cases h : x.word? <;> simp [words, h]

/-- The verdict of the first event comes before those of the others. -/
@[simp] lemma verdicts_cons (x : Event) : verdicts (x :: t) = x.verdict?.toList ++ t.verdicts := by
  cases h : x.verdict? <;> simp [verdicts, h]

/-- The starts and stops of the first event come before those of the others. -/
@[simp] lemma marks_cons (x : Event) : marks (x :: t) = x.calls.filterMap EngineCall.mark? ++ t.marks := by
  simp [marks, calls]

end Trace

/-- The starts that are asked for and not answered yet, in the order in which they are answered. -/
def inFlight (s : Station JournalEngine) : List StartOrigin :=
  s.inbox.filterMap Input.told? ++ s.engine.queue.filterMap EngineCall.begun?

/-- The station with the disk as it has become. -/
def onDisk (s : Station JournalEngine) (d : Disk) : Station JournalEngine :=
  { s with engine := { s.engine with recorder := s.engine.recorder.onDisk d } }

/-- What can happen next, with the event that it leaves. -/
inductive Step (s : Station JournalEngine) : Trace → Station JournalEngine → Prop where
  | post {i} :
    i.isAcknowledgment = false →
    Step s [] (s.turn (.post i)).1
  | handle {i rest} :
    s.inbox = i :: rest →
    Step s [.handled i (s.turn .handle).2] (s.turn .handle).1
  | work {c rest} :
    s.engine.queue = c :: rest →
    Step s [.applied c (JournalEngine.apply s.engine.recorder c).2] (s.turn .work).1
  | disk {d} :
    Step s [] (s.onDisk d)

/-- Steps one after the other, with all their events. -/
inductive Run (s₀ : Station JournalEngine) : Trace → Station JournalEngine → Prop where
  | refl :
    Run s₀ [] s₀
  | step {t s e s'} :
    Run s₀ t s →
    Step s e s' →
    Run s₀ (t ++ e) s'

/-- A station on a journal just opened. -/
inductive Fresh : Station JournalEngine → Prop where
  | opened {platform journal engine} :
    JournalEngine.open? journal = some engine →
    Fresh (start platform engine)

/-- A station that a run leads to. -/
def Reachable (s : Station JournalEngine) : Prop := ∃ s₀ t, Fresh s₀ ∧ Run s₀ t s

/-- A registered device. -/
def device : Registration := ⟨"srv", "u", "dev", ""⟩

/-- A station on an empty journal. -/
def opened (registration : Option Registration) : Station JournalEngine :=
  start ⟨"linux"⟩ ⟨⟨⟨[], registration, true, true⟩, false, registration.isSome, none⟩, [], true⟩

/-- A station on an empty journal is fresh. -/
lemma opened_fresh (registration : Option Registration) : Fresh (opened registration) := by
  have h : JournalEngine.open? ⟨[], registration, true, true⟩ =
      some ⟨⟨⟨[], registration, true, true⟩, false, registration.isSome, none⟩, [], true⟩ := rfl
  exact .opened h

/-- What a fresh station is like: nothing waits, nothing is recorded and nobody asked to be tracked. -/
lemma Fresh.eq {s} (f : Fresh s) :
    s.inbox = [] ∧ s.reporter.armed = false ∧ s.reporter.enabled = false ∧ s.reporter.focus = .initial ∧
      s.engine.queue = [] ∧ s.engine.alive = true ∧ s.engine.recorder.tracking = false := by
  cases f with
  | @opened platform journal engine h =>
    simp only [JournalEngine.open?, Recorder.open?, Option.map_eq_some_iff] at h
    obtain ⟨_, ⟨_, _, rfl⟩, rfl⟩ := h
    exact ⟨rfl, rfl, rfl, rfl, rfl, rfl, rfl⟩

/-- In a fresh station no start is in flight. -/
lemma Fresh.inFlight {s} (f : Fresh s) : s.inFlight = [] := by
  obtain ⟨hi, _, _, _, hq, _, _⟩ := f.eq
  simp [Station.inFlight, hi, hq]

/-- In a fresh station nobody has asked to be tracked. -/
lemma Fresh.unarmed {s} (f : Fresh s) : s.reporter.armed = false := f.eq.2.1

/-- A fresh station has a worker. -/
lemma Fresh.alive {s} (f : Fresh s) : s.engine.alive = true := f.eq.2.2.2.2.2.1

/-- Outcomes are put together answer by answer and call by call. -/
@[simp] lemma append_outcome (a b : Outcome) : a ++ b = ⟨a.answers ++ b.answers, a.calls ++ b.calls⟩ := rfl

/-- An engine after calls, with what it acknowledged at once. -/
def submitAll {ε : Type} [Engine ε] (engine : ε) : List EngineCall → ε × List Input
  | [] => (engine, [])
  | c :: rest =>
    let (engine, acks) := Engine.submit engine c
    let (engine, more) := submitAll engine rest
    (engine, acks ++ more)

/-- Effects are carried out by passing the answers on and submitting the calls. -/
lemma foldl_carryOut {ε : Type} [Engine ε] (effects : List Effect) (s : Station ε) (done : Outcome) :
    effects.foldl carryOut (s, done) =
      (⟨s.reporter, (submitAll s.engine (effects.filterMap Effect.call?)).1,
          s.inbox ++ (submitAll s.engine (effects.filterMap Effect.call?)).2⟩,
        ⟨done.answers ++ effects.filterMap Effect.answer?, done.calls ++ effects.filterMap Effect.call?⟩) := by
  induction effects generalizing s done with
  | nil => simp [submitAll]
  | cons effect rest ih =>
    rw [List.foldl_cons, ih]
    cases effect with
    | call c => simp [carryOut, submitAll, Effect.call?, Effect.answer?, List.filterMap_cons]
    | answer asker response => simp [carryOut, Effect.call?, Effect.answer?, List.filterMap_cons]

/-- A worker that is there finds all calls in its queue. -/
lemma submitAll_alive {e : JournalEngine} (calls : List EngineCall) (alive : e.alive = true) :
    submitAll e calls = (⟨e.recorder, e.queue ++ calls, e.alive⟩, []) := by
  induction calls generalizing e with
  | nil => simp [submitAll]
  | cons c rest ih => simp [submitAll, Engine.submit, JournalEngine.submit, alive, ih]

/-- The reporter takes the oldest input, reacts to it, and its calls go to the end of the queue. -/
lemma turn_handle {s : Station JournalEngine} {i rest} (alive : s.engine.alive = true) (hi : s.inbox = i :: rest) :
    ∃ r calls answers, Reaction s.reporter i r calls ∧
      s.turn .handle = (⟨r, ⟨s.engine.recorder, s.engine.queue ++ calls, s.engine.alive⟩, rest⟩, ⟨answers, calls⟩) := by
  have eq : s.turn .handle = (s.reporter.handle s.engine.recorder.tracking i).2.foldl carryOut
      (⟨(s.reporter.handle s.engine.recorder.tracking i).1, s.engine, rest⟩, .none) := by
    simp only [turn, next?, hi, Option.getD_some, process]
    rfl
  rw [foldl_carryOut, submitAll_alive _ alive, List.append_nil] at eq
  exact ⟨_, _, _, s.reporter.handle_reaction s.engine.recorder.tracking i, eq⟩

/-- The worker takes the oldest call, applies it, and the acknowledgment goes to the end of the inbox. -/
lemma turn_work {s : Station JournalEngine} {c rest} (hq : s.engine.queue = c :: rest) :
    (s.turn .work).1 =
      ⟨s.reporter, ⟨(JournalEngine.apply s.engine.recorder c).1, rest, s.engine.alive⟩,
        s.inbox ++ c.acknowledgment (JournalEngine.apply s.engine.recorder c).2⟩ := by
  simp [turn, work?, JournalEngine.work?, hq]

/-- What the reporter does in a step is a reaction to the oldest input. -/
lemma Step.handled {s i done s'} (st : Step s [.handled i done] s') (alive : s.engine.alive = true) :
    ∃ r rest, s.inbox = i :: rest ∧ Reaction s.reporter i r done.calls ∧
      s' = ⟨r, ⟨s.engine.recorder, s.engine.queue ++ done.calls, s.engine.alive⟩, rest⟩ := by
  cases st with
  | handle hi =>
    obtain ⟨r, calls, answers, re, eq⟩ := turn_handle alive hi
    rw [eq]
    exact ⟨r, _, hi, re, rfl⟩

/-- No step loses the worker. -/
lemma Step.alive {s e s'} (st : Step s e s') (alive : s.engine.alive = true) : s'.engine.alive = true := by
  cases st with
  | post _ => exact alive
  | handle hi =>
    obtain ⟨r, calls, answers, _, eq⟩ := turn_handle alive hi
    rw [eq]
    exact alive
  | work hq =>
    rw [turn_work hq]
    exact alive
  | disk => exact alive

/-- The station after turns, and their events. -/
def play (s : Station JournalEngine) : List Turn → Station JournalEngine × Trace
  | [] => (s, [])
  | .post i :: turns => (s.turn (.post i)).1.play turns
  | .handle :: turns =>
    match s.inbox with
    | [] => s.play turns
    | i :: _ =>
      let (s', t) := (s.turn .handle).1.play turns
      (s', [.handled i (s.turn .handle).2] ++ t)
  | .work :: turns =>
    match s.engine.queue with
    | [] => s.play turns
    | c :: _ =>
      let (s', t) := (s.turn .work).1.play turns
      (s', [.applied c (JournalEngine.apply s.engine.recorder c).2] ++ t)

/-- What a step asks for joins what is in flight at the end, and what it answers leaves at the front. -/
lemma Step.begun_eq {s e s'} (st : Step s e s') (alive : s.engine.alive = true) :
    s.inFlight ++ e.begun = e.told ++ s'.inFlight := by
  cases st with
  | @post i hi =>
    simp [Trace.begun, Trace.told, Trace.calls, Trace.inputs, inFlight, turn, Station.post, Input.told?_of_posted hi]
  | @handle i rest hi =>
    obtain ⟨r, calls, answers, _, eq⟩ := turn_handle alive hi
    rw [eq]
    cases ht : i.told? <;> simp [Trace.begun, Trace.told, Trace.calls, Trace.inputs, inFlight, hi, ht, Event.calls,
      Event.input?]
  | @work c rest hq =>
    rw [turn_work hq]
    cases c <;> simp [Trace.begun, Trace.told, Trace.calls, Trace.inputs, inFlight, hq, Event.calls, Event.input?,
      EngineCall.acknowledgment, EngineCall.begun?, Input.told?, List.filterMap_cons]
  | disk => simp [Trace.begun, Trace.told, Trace.calls, Trace.inputs, inFlight, onDisk]

/-- The wish to be tracked follows the words of a step. -/
lemma Step.armed_eq {s e s'} (st : Step s e s') (alive : s.engine.alive = true) :
    s'.reporter.armed = (e.words.getLast?.map Word.arms).getD s.reporter.armed := by
  cases st with
  | post _ => rfl
  | @handle i rest hi =>
    obtain ⟨r, calls, answers, re, eq⟩ := turn_handle alive hi
    rw [eq]
    cases hw : i.word? <;> simpa [Event.word?, Event.input?, hw] using re.armed_eq
  | work hq =>
    rw [turn_work hq]
    rfl
  | disk => rfl

/-- A step leaves one event at most. -/
lemma Step.events {s e s'} (st : Step s e s') : e = [] ∨ ∃ x, e = [x] := by
  cases st with
  | post _ => exact .inl rfl
  | handle _ => exact .inr ⟨_, rfl⟩
  | work _ => exact .inr ⟨_, rfl⟩
  | disk => exact .inl rfl

namespace Run

/-- No run loses the worker. -/
lemma alive {s₀ t s} (run : Run s₀ t s) (alive : s₀.engine.alive = true) : s.engine.alive = true := by
  induction run with
  | refl => exact alive
  | step _ st ih => exact st.alive ih

/-- A run goes on where another ends. -/
lemma trans {s₀ t₁ s₁ t₂ s} (run₁ : Run s₀ t₁ s₁) (run₂ : Run s₁ t₂ s) : Run s₀ (t₁ ++ t₂) s := by
  induction run₂ with
  | refl => simpa using run₁
  | step _ st ih =>
    rw [← List.append_assoc]
    exact ih.step st

/-- A run begins with a step. -/
lemma head {s₀ e s₁ t s} (st : Step s₀ e s₁) (run : Run s₁ t s) : Run s₀ (e ++ t) s := by
  have run₁ := Run.refl.step st
  rw [List.nil_append] at run₁
  exact run₁.trans run

/-- The states before and after an event of a run. -/
lemma split {s₀ t₁ e t₂ s} (run : Run s₀ (t₁ ++ e :: t₂) s) :
    ∃ s₁ s₂, Run s₀ t₁ s₁ ∧ Step s₁ [e] s₂ ∧ Run s₂ t₂ s := by
  generalize h : t₁ ++ e :: t₂ = t at run
  induction run generalizing t₂ with
  | refl => simp at h
  | @step t s e' s' run st ih =>
    have earlier {t₂'} (ht : t₁ ++ e :: t₂' = t) (h₂ : t₂' ++ e' = t₂) :
        ∃ s₁ s₂, Run s₀ t₁ s₁ ∧ Step s₁ [e] s₂ ∧ Run s₂ t₂ s' := by
      obtain ⟨s₁, s₂, run₁, st₁, run₂⟩ := ih ht
      exact ⟨s₁, s₂, run₁, st₁, h₂ ▸ run₂.step st⟩
    rcases st.events with rfl | ⟨x, rfl⟩
    · exact earlier (by simpa using h) (by simp)
    -- The event is that of the last step if nothing comes after it.
    · rcases List.eq_nil_or_concat t₂ with rfl | ⟨t₂', x', rfl⟩
      · obtain ⟨rfl, hx⟩ := List.append_inj' h rfl
        cases hx
        exact ⟨s, s', run, st, .refl⟩
      · rw [List.concat_eq_append, ← List.cons_append, ← List.append_assoc] at h
        obtain ⟨ht, hx⟩ := List.append_inj' h rfl
        exact earlier ht (by rw [← hx, List.concat_eq_append])

/-- In between is a reaction if the event is that an input was handled. -/
lemma split_handled {s₀ t₁ i done t₂ s} (run : Run s₀ (t₁ ++ .handled i done :: t₂) s)
    (alive : s₀.engine.alive = true) :
    ∃ s₁ s₂, Run s₀ t₁ s₁ ∧ Reaction s₁.reporter i s₂.reporter done.calls ∧ Run s₂ t₂ s ∧
      s₂.engine.alive = true := by
  obtain ⟨s₁, s₂, run₁, st, run₂⟩ := run.split
  have alive₁ := run₁.alive alive
  obtain ⟨r, rest, _, re, rfl⟩ := st.handled alive₁
  exact ⟨s₁, _, run₁, re, run₂, alive₁⟩

/-- Starts are answered once each and in the order in which they were asked for. -/
theorem begun_eq {s₀ t s} (run : Run s₀ t s) (alive : s₀.engine.alive = true) :
    s₀.inFlight ++ t.begun = t.told ++ s.inFlight := by
  induction run with
  | refl => simp [Trace.begun, Trace.told, Trace.calls, Trace.inputs]
  | step run st ih =>
    rw [Trace.begun_append, Trace.told_append, ← List.append_assoc, ih, List.append_assoc, List.append_assoc,
      st.begun_eq (run.alive alive)]

/-- What is answered comes first of what was asked for. -/
lemma told_prefix {s₀ t s} (run : Run s₀ t s) (f : Fresh s₀) : t.told <+: t.begun := by
  have h := run.begun_eq f.alive
  rw [f.inFlight, List.nil_append] at h
  exact ⟨s.inFlight, h.symm⟩

/-- The wish to be tracked follows the last word of a run. -/
lemma armed_eq {s t s'} (run : Run s t s') (alive : s.engine.alive = true) :
    s'.reporter.armed = (t.words.getLast?.map Word.arms).getD s.reporter.armed := by
  induction run with
  | refl => rfl
  | @step t s₁ e s₂ run st ih =>
    rw [Trace.words_append, st.armed_eq (run.alive alive), ih, List.getLast?_append]
    cases e.words.getLast? <;> rfl

/-- While the user does not want to be tracked and the words allow, what holds of the calls of each reaction holds of
all calls of a run. -/
lemma unarmed {s t s'} {P : EngineCall → Prop} {Q : Word → Prop} (run : Run s t s') (alive : s.engine.alive = true)
    (ha : s.reporter.armed = false) (hw : ∀ w ∈ t.words, Q w)
    (hr : ∀ {r i r' calls}, Reaction r i r' calls → r.armed = false → (∀ w, i.word? = some w → Q w) →
      r'.armed = false ∧ ∀ c ∈ calls, P c) :
    s'.reporter.armed = false ∧ ∀ c ∈ t.calls, P c := by
  induction run with
  | refl => exact ⟨ha, nofun⟩
  | step run st ih =>
    rw [Trace.words_append, List.forall_mem_append] at hw
    rw [Trace.calls_append, List.forall_mem_append]
    obtain ⟨ha', hc⟩ := ih hw.1
    cases st with
    | post _ => exact ⟨ha', hc, nofun⟩
    | @handle i rest hi =>
      obtain ⟨r, calls, answers, re, eq⟩ := turn_handle (run.alive alive) hi
      rw [eq] at hw ⊢
      obtain ⟨ha'', hc'⟩ := hr re ha' fun w h => hw.2 w (by simp [Trace.words, Event.word?, Event.input?, h])
      exact ⟨ha'', hc, by simpa [Trace.calls, Event.calls] using hc'⟩
    | work hq =>
      rw [turn_work hq]
      exact ⟨ha', hc, nofun⟩
    | disk => exact ⟨ha', hc, nofun⟩

/-- A run of turns, which can be computed. Turns with nothing to do are passed over. -/
lemma play {s} {turns : List Turn} (h : ∀ i, .post i ∈ turns → i.isAcknowledgment = false) :
    Run s (s.play turns).2 (s.play turns).1 := by
  induction turns generalizing s with
  | nil => exact .refl
  | cons turn turns ih =>
    have h' : ∀ i, .post i ∈ turns → i.isAcknowledgment = false := fun i hi => h i (.tail _ hi)
    cases turn with
    | post i => exact head (.post (h i (.head _))) (ih h')
    | handle =>
      simp only [Station.play]
      split
      · exact ih h'
      · next hi => exact head (.handle hi) (ih h')
    | work =>
      simp only [Station.play]
      split
      · exact ih h'
      · next hq => exact head (.work hq) (ih h')

end Run

end Station

end FocusJournal
