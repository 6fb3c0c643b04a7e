import FocusJournal.Proofs.Reporter.Switching
import FocusJournal.Proofs.Station.Run

/-!
# Courses

What can happen to a station whatever its engine is: an input comes in and is handled, the oldest input of the inbox is
handled, or the engine moves by itself and posts. The engine may acknowledge a call at once, later or never, and what it
posts waits in the inbox. An input from outside that has to wait between these comes in when its turn has come. The
course of a list of such acts is the list of its moments.

`Moment.of_input` and `Moment.of_idle` say what a moment comes to, `act_keeps` carries over what handling an input keeps,
and `inputs_append_inbox` says that what the engine posts is handled in its order and nothing of it gets lost.
-/

namespace FocusJournal

/-- The answers that the deed gives. -/
def Deed.answers (d : Deed) : List Answer := (d.before.handle d.recording d.input).2.filterMap Effect.answer?

namespace Station

variable {ε : Type}

/-- What happens next at a station. -/
inductive Act (ε : Type) where
  /-- An input comes in and is handled. -/
  | take (i : Input)
  /-- The oldest input of the inbox is handled. -/
  | next
  /-- The engine moves by itself and posts. -/
  | stir (move : ε → ε × List Input)

/-- A station with what happens next at it. -/
structure Moment (ε : Type) where
  before : Station ε
  act : Act ε

namespace Moment

/-- The input that the reporter handles in the moment, if it handles one. -/
def input? (m : Moment ε) : Option Input :=
  match m.act with
  | .take i => some i
  | .next => m.before.inbox.head?
  | .stir _ => none

/-- What waits in the inbox and goes on waiting. -/
def kept (m : Moment ε) : List Input :=
  match m.act with
  | .next => m.before.inbox.tail
  | _ => m.before.inbox

/-- What is handled and does not come in from outside was the oldest in the inbox. -/
lemma input_append_kept {β : Type} {f : Input → Option β} {m : Moment ε} (hf : ∀ i, m.act = .take i → f i = none) :
    m.input?.toList.filterMap f ++ m.kept.filterMap f = m.before.inbox.filterMap f := by
  obtain ⟨s, a⟩ := m
  cases a with
  | take i => simp [input?, kept, hf i rfl]
  | next =>
    rw [← List.filterMap_append]
    cases hs : s.inbox <;> simp [input?, kept, hs]
  | stir move => rfl

end Moment

variable [Engine ε]

/-- The station after an act, and what the reporter did in it. -/
def act (s : Station ε) : Act ε → Station ε × Outcome
  | .take i => s.process i
  | .next => s.next?.getD (s, .none)
  | .stir move => (⟨s.reporter, (move s.engine).1, s.inbox ++ (move s.engine).2⟩, .none)

/-- The deed that handling an input now would be. -/
def deed (s : Station ε) (i : Input) : Deed := ⟨s.reporter, Engine.isTracking s.engine, i⟩

/-- To process an input does its deed, and submits the calls to the engine. -/
lemma process_eq (s : Station ε) (i : Input) :
    s.process i =
      (⟨(s.deed i).after, (submitAll s.engine (s.deed i).calls).1,
          s.inbox ++ (submitAll s.engine (s.deed i).calls).2⟩,
        ⟨(s.deed i).answers, (s.deed i).calls⟩) := by
  exact foldl_carryOut (s.reporter.handle (Engine.isTracking s.engine) i).2 { s with reporter := (s.deed i).after } .none

namespace Moment

/-- The station after the moment. -/
def after (m : Moment ε) : Station ε := (m.before.act m.act).1

/-- What is done in the moment. -/
def done (m : Moment ε) : Outcome := (m.before.act m.act).2

/-- What the engine posts, by itself or because of a call. -/
def posted (m : Moment ε) : List Input :=
  match m.act with
  | .stir move => (move m.before.engine).2
  | _ => (submitAll m.before.engine m.done.calls).2

variable {m : Moment ε} {i : Input}

/-- Where an input is handled, the reporter does its deed and the engine gets the calls. -/
lemma of_input (hi : m.input? = some i) :
    m.after = ⟨(m.before.deed i).after, (submitAll m.before.engine (m.before.deed i).calls).1, m.kept ++ m.posted⟩ ∧
      m.done = ⟨(m.before.deed i).answers, (m.before.deed i).calls⟩ := by
  obtain ⟨⟨r, engine, inbox⟩, a⟩ := m
  cases a with
  | take i' =>
    cases hi
    simp only [after, done, posted, kept, Station.act, process_eq]
    trivial
  | next =>
    cases inbox with
    | nil => cases hi
    | cons _ rest =>
      cases hi
      simp only [after, done, posted, kept, Station.act, next?, Option.getD_some, process_eq]
      trivial
  | stir move => cases hi

/-- Elsewhere the reporter does nothing. -/
lemma of_idle (hi : m.input? = none) :
    m.after.reporter = m.before.reporter ∧ m.after.inbox = m.kept ++ m.posted ∧ m.done = .none := by
  obtain ⟨⟨r, engine, inbox⟩, a⟩ := m
  cases a with
  | take i => cases hi
  | next =>
    cases inbox with
    | nil => exact ⟨rfl, rfl, rfl⟩
    | cons _ rest => cases hi
  | stir move => exact ⟨rfl, rfl, rfl⟩

/-- What comes from the engine alone is handled, or it waits where it waited or at the end. -/
lemma input_append_inbox {β : Type} {f : Input → Option β} (hf : ∀ i, m.act = .take i → f i = none) :
    m.input?.toList.filterMap f ++ m.after.inbox.filterMap f =
      m.before.inbox.filterMap f ++ m.posted.filterMap f := by
  have inbox : m.after.inbox = m.kept ++ m.posted := by
    cases hi : m.input? with
    | none => exact (of_idle hi).2.1
    | some i => rw [(of_input hi).1]
  rw [inbox, List.filterMap_append, ← List.append_assoc, input_append_kept hf]

end Moment

/-- What handling an input keeps of the reporter, every act keeps. -/
lemma act_keeps {P : Reporter → Prop} {s : Station ε} {a : Act ε} (h : P s.reporter)
    (keep : ∀ i, Moment.input? ⟨s, a⟩ = some i → P (s.deed i).after) : P (s.act a).1.reporter := by
  let m : Moment ε := ⟨s, a⟩
  change P m.after.reporter
  cases hi : m.input? with
  | none => rwa [(Moment.of_idle hi).1]
  | some i =>
    rw [(Moment.of_input hi).1]
    exact keep i hi

/-- The moments one after the other. -/
abbrev Course (ε : Type) := List (Moment ε)

/-- What a list of acts comes to, moment by moment. -/
def course (s : Station ε) : List (Act ε) → Course ε
  | [] => []
  | a :: acts => ⟨s, a⟩ :: (s.act a).1.course acts

/-- The station after acts. -/
def afterAll (s : Station ε) (acts : List (Act ε)) : Station ε := acts.foldl (fun s a => (s.act a).1) s

namespace Course

/-- The inputs that the reporter handles. -/
def inputs (h : Course ε) : List Input := h.flatMap fun m => m.input?.toList

/-- The calls that it makes. -/
def calls (h : Course ε) : List EngineCall := h.flatMap fun m => m.done.calls

/-- The acknowledgments that are posted to it. -/
def posted (h : Course ε) : List Input := h.flatMap Moment.posted

end Course

variable {s : Station ε} {acts : List (Act ε)}

/-- A course can be cut at each of its moments. -/
lemma course_cut {m : Moment ε} (hm : m ∈ s.course acts) :
    ∃ (acts₁ acts₂ : List (Act ε)) (later : Course ε),
      acts = acts₁ ++ acts₂ ∧ s.course acts = s.course acts₁ ++ m :: later := by
  induction acts generalizing s with
  | nil => cases hm
  | cons a acts ih =>
    rcases List.mem_cons.1 hm with rfl | hm
    · exact ⟨[], _, _, rfl, rfl⟩
    · obtain ⟨acts₁, acts₂, later, rfl, eq⟩ := ih hm
      exact ⟨a :: acts₁, acts₂, later, rfl, congrArg _ eq⟩

/-- What comes from the engine alone is handled in the order in which it is posted, and the rest of it waits. -/
lemma inputs_append_inbox {β : Type} {f : Input → Option β} (hf : ∀ i, .take i ∈ acts → f i = none) :
    (s.course acts).inputs.filterMap f ++ (s.afterAll acts).inbox.filterMap f =
      s.inbox.filterMap f ++ (s.course acts).posted.filterMap f := by
  induction acts generalizing s with
  | nil => exact (List.append_nil _).symm
  | cons a acts ih =>
    -- The inbox after the first act is the last summand of `first` and the first one of `rest`.
    let m : Moment ε := ⟨s, a⟩
    have first := m.input_append_inbox fun i (hi : a = .take i) => hf i (by simp [hi])
    have rest := ih (s := m.after) fun i hi => hf i (.tail _ hi)
    calc
      (Course.inputs (m :: m.after.course acts)).filterMap f ++ (m.after.afterAll acts).inbox.filterMap f
      _ = m.input?.toList.filterMap f ++
          ((m.after.course acts).inputs.filterMap f ++ (m.after.afterAll acts).inbox.filterMap f) := by
        rw [Course.inputs, List.flatMap_cons, List.filterMap_append, List.append_assoc]
        rfl
      _ = m.input?.toList.filterMap f ++
          (m.after.inbox.filterMap f ++ (m.after.course acts).posted.filterMap f) := by rw [rest]
      _ = s.inbox.filterMap f ++ (m.posted.filterMap f ++ (m.after.course acts).posted.filterMap f) := by
        rw [← List.append_assoc, first, List.append_assoc]
      _ = s.inbox.filterMap f ++ (Course.posted (m :: m.after.course acts)).filterMap f := by
        rw [← List.filterMap_append]
        rfl

end Station

end FocusJournal
