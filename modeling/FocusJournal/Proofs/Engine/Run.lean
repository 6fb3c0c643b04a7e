import FocusJournal.Proofs.Recorder.Upshot

/-!
# Runs of the engine

What can happen to an engine by itself. Someone makes a call, the worker applies the oldest one, the disk begins or
ceases to refuse writes, or the engine is dropped and another one takes up its journal; calls that have not been applied
by then are lost. A run is any number of such steps in any order, and it is told by the list of its events.

`Step.change` says what a step comes to for the recorder.
-/

namespace FocusJournal.JournalEngine

/-- What happens in a step and leaves a trace. -/
inductive Event where
  | asked (c : EngineCall)
  | applied (c : EngineCall) (d : Disk) (success : Bool)
  /-- Another engine has taken up the journal. -/
  | reopened (d : Disk)

/-- The disk as the worker or a new engine finds it in an event. -/
def Event.disk? : Event → Option Disk
  | .asked _ => none
  | .applied _ d _ => some d
  | .reopened d => some d

/-- Whether another engine takes up the journal. -/
def Event.replaces : Event → Bool
  | .reopened _ => true
  | _ => false

/-- The events of a run. -/
abbrev Trace := List Event

/-- What can happen next, with the event that it leaves. -/
inductive Step (e : JournalEngine) : Trace → JournalEngine → Prop where
  | ask {c} :
    Step e [.asked c] (e.submit c).1
  | work {c rest e' acks} :
    e.queue = c :: rest →
    e.work? = some (e', acks) →
    Step e [.applied c e.recorder.disk (apply e.recorder c).2] e'
  | disk {d} :
    Step e [] { e with recorder := e.recorder.onDisk d }
  | reopen {e'} :
    JournalEngine.open? e.recorder.journal = some e' →
    Step e [.reopened e.recorder.disk] e'

/-- Steps one after the other, with all their events. -/
inductive Run (e₀ : JournalEngine) : Trace → JournalEngine → Prop where
  | refl :
    Run e₀ [] e₀
  | step {t e x e'} :
    Run e₀ t e →
    Step e x e' →
    Run e₀ (t ++ x) e'

/-- What a step comes to for the recorder. -/
inductive Change (r : Recorder) : Trace → Recorder → Prop where
  | ask {c} :
    Change r [.asked c] r
  | work {c r' success} :
    Upshot r c r' success →
    Change r [.applied c r.disk success] r'
  | disk {d} :
    Change r [] (r.onDisk d)
  | reopen {r'} :
    Recorder.open? r.journal = some r' →
    Change r [.reopened r.disk] r'

/-- A call that is asked for has not changed the recorder yet. -/
@[simp] lemma submit_recorder (e : JournalEngine) (c : EngineCall) : (e.submit c).1.recorder = e.recorder := by
  unfold submit
  split <;> rfl

/-- The worker takes the first call from the queue, applies it and acknowledges it. -/
lemma work?_eq {e : JournalEngine} {c rest} (hq : e.queue = c :: rest) :
    e.work? = some (⟨(apply e.recorder c).1, rest, e.alive⟩, c.acknowledgment (apply e.recorder c).2) := by
  simp [work?, hq]

/-- An engine that is opened has the recorder of the journal, nothing in its queue, and a worker. -/
lemma open?_eq_some {j : Journal} {e : JournalEngine} :
    JournalEngine.open? j = some e ↔ ∃ r, Recorder.open? j = some r ∧ ⟨r, [], true⟩ = e :=
  Option.map_eq_some_iff

/-- A step changes the recorder in one of the ways that `Change` lists. -/
theorem Step.change {e e' : JournalEngine} {x} (st : Step e x e') : Change e.recorder x e'.recorder := by
  cases st with
  | ask =>
    rw [submit_recorder]
    exact .ask
  | @work c rest _ acks hq hw =>
    rw [work?_eq hq] at hw
    cases hw
    exact .work (apply_upshot e.recorder c)
  | disk => exact .disk
  | reopen ho =>
    obtain ⟨r, hr, rfl⟩ := open?_eq_some.1 ho
    exact .reopen hr

/-- An engine on a new journal. -/
def unused : JournalEngine := ⟨⟨.fresh, false, false, none⟩, [], true⟩

namespace Run

/-- A call that finds the queue empty is applied at once. -/
lemma call {e₀ t e} (run : Run e₀ t e) (hq : e.queue = []) (alive : e.alive = true) (c : EngineCall) :
    Run e₀ (t ++ [.asked c] ++ [.applied c e.recorder.disk (apply e.recorder c).2])
      ⟨(apply e.recorder c).1, [], e.alive⟩ := by
  have hs : (e.submit c).1 = ⟨e.recorder, [c], e.alive⟩ := by simp [submit, alive, hq]
  have asked := run.step (.ask (c := c))
  rw [hs] at asked
  exact asked.step (.work rfl (work?_eq rfl))

/-- A run goes on where another ends. -/
lemma trans {e₀ t₁ e₁ t₂ e} (run₁ : Run e₀ t₁ e₁) (run₂ : Run e₁ t₂ e) : Run e₀ (t₁ ++ t₂) e := by
  induction run₂ with
  | refl => simpa using run₁
  | step _ st ih =>
    rw [← List.append_assoc]
    exact ih.step st

/-- What holds at first and is kept by every change holds after the run. -/
lemma keeps {P : Trace → Recorder → Prop} {e₀ t e} (run : Run e₀ t e) (start : P [] e₀.recorder)
    (step : ∀ {t r x r'}, P t r → Change r x r' → P (t ++ x) r') : P t e.recorder := by
  induction run with
  | refl => exact start
  | step _ st ih => exact step ih st.change

end Run

end FocusJournal.JournalEngine
