import FocusJournal.Proofs.Engine.Run
import FocusJournal.Proofs.Recorder.Span
import Mathlib.Data.List.Chain
import Mathlib.Tactic.ByContra

/-!
# Starts and stops in turn

Whether the starts and stops of a journal alternate when the disk may refuse rows. A start that is refused opens no span
and a switch that is refused only goes unnoted, but a stop that is refused leaves the span open in the journal while the
engine takes it for closed. A new engine closes such a span. The same engine does not, and if it is asked to start again
before it is replaced, then a start follows a start: `alternates_iff` says that this is the only way.
-/

namespace FocusJournal

namespace Journal

/-- The starts and stops of the journal strictly alternate, beginning with a start. -/
def Alternates (j : Journal) : Prop := (EventKind.stop :: j.marks).IsChain (· ≠ ·)

instance (j : Journal) : Decidable j.Alternates := inferInstanceAs (Decidable (List.IsChain _ _))

/-- A row that is written adds the start or the stop that it is, if it is one. -/
@[simp] lemma marks_write (j : Journal) (kind : RowKind) (app : Option String) :
    (j.write kind app).marks = j.marks ++ (Line.mark? ⟨kind, app⟩).toList := by
  cases h : Line.mark? ⟨kind, app⟩ <;> simp [marks, h]

/-- Whether a journal alternates depends on its starts and stops alone. -/
lemma alternates_congr {j j' : Journal} (h : j'.marks = j.marks) : j'.Alternates ↔ j.Alternates := by
  rw [Alternates, Alternates, h]

/-- A start keeps a journal alternating unless it follows a start. -/
lemma alternates_write_start (j : Journal) :
    (j.write (.event .start) none).Alternates ↔ j.Alternates ∧ j.marks.getLast? ≠ some .start := by
  rw [Alternates, marks_write, ← List.cons_append, List.isChain_append]
  cases h : j.marks.getLast? <;> simp [Alternates, Line.mark?, List.getLast?_cons, h]

/-- A stop after a start keeps a journal alternating. -/
lemma alternates_write_stop {j : Journal} (h : j.marks.getLast? = some .start) :
    (j.write (.event .stop) none).Alternates ↔ j.Alternates := by
  rw [Alternates, marks_write, ← List.cons_append, List.isChain_append]
  simp [Alternates, Line.mark?, List.getLast?_cons, h]

end Journal

namespace JournalEngine

/-- What an event makes of the recording: a start that is granted begins it or finds it begun, and a stop or a new
engine ends it. -/
def Event.mark? : Event → Option EventKind
  | .applied (.start _) _ true => some .start
  | .applied .stop _ _ => some .stop
  | .reopened _ => some .stop
  | _ => none

namespace Trace

/-- The engine records. -/
def Recording (t : Trace) : Prop := (t.filterMap Event.mark?).getLast? = some .start

/-- The stop of a recording was refused by the disk, and since then no start was granted and the engine was not
replaced. -/
def LeftOpen (t : Trace) : Prop :=
  ∃ t₁ x t₂, t = t₁ ++ x :: t₂ ∧ (∃ d success, x = .applied .stop d success ∧ d.events = false ∧ Recording t₁) ∧
    ∀ y ∈ t₂, y.mark? ≠ some .start ∧ y.replaces = false

/-- A start was granted by an engine whose last recording was left open. -/
def Overlaps (t : Trace) : Prop :=
  ∃ t₁ x t₂, t = t₁ ++ x :: t₂ ∧ x.mark? = some .start ∧ LeftOpen t₁

/-- A trace with an event at its end is cut there or somewhere before. -/
lemma exists_cut_concat {p : Trace → Event → Trace → Prop} {t : Trace} {x : Event} :
    (∃ t₁ y t₂, t ++ [x] = t₁ ++ y :: t₂ ∧ p t₁ y t₂) ↔
      p t x [] ∨ ∃ t₁ y t₂, t = t₁ ++ y :: t₂ ∧ p t₁ y (t₂ ++ [x]) := by
  constructor
  · rintro ⟨t₁, y, t₂, h, hp⟩
    rcases List.eq_nil_or_concat t₂ with rfl | ⟨t₂, z, rfl⟩
    · obtain ⟨rfl, hx⟩ := List.append_inj' h rfl
      cases hx
      exact .inl hp
    · rw [List.concat_eq_append, ← List.cons_append, ← List.append_assoc] at h
      obtain ⟨rfl, hx⟩ := List.append_inj' h rfl
      cases hx
      exact .inr ⟨t₁, y, t₂, rfl, by simpa using hp⟩
  · rintro (hp | ⟨t₁, y, t₂, rfl, hp⟩)
    · exact ⟨t, x, [], rfl, hp⟩
    · exact ⟨t₁, y, t₂ ++ [x], by simp, hp⟩

variable {t : Trace} {x : Event}

/-- An event that begins or ends the recording decides whether the engine records. -/
lemma recording_concat_of_mark {m} (h : x.mark? = some m) : Recording (t ++ [x]) ↔ m = .start := by
  simp [Recording, h]

/-- Any other event leaves that as it was. -/
lemma recording_concat_of_unmarked (h : x.mark? = none) : Recording (t ++ [x]) ↔ t.Recording := by
  simp [Recording, h]

/-- A recording is left open by the refusal of its stop, and stays so until a start is granted or the engine replaced.
-/
lemma leftOpen_concat :
    LeftOpen (t ++ [x]) ↔ (∃ d success, x = .applied .stop d success ∧ d.events = false ∧ t.Recording) ∨
      t.LeftOpen ∧ x.mark? ≠ some .start ∧ x.replaces = false := by
  rw [LeftOpen, exists_cut_concat]
  refine or_congr (by simp) ?_
  constructor
  · rintro ⟨t₁, y, t₂, rfl, hy, h⟩
    rw [List.forall_mem_append, List.forall_mem_singleton] at h
    exact ⟨⟨t₁, y, t₂, rfl, hy, h.1⟩, h.2⟩
  · rintro ⟨⟨t₁, y, t₂, rfl, hy, h⟩, hx⟩
    refine ⟨t₁, y, t₂, rfl, hy, ?_⟩
    rw [List.forall_mem_append, List.forall_mem_singleton]
    exact ⟨h, hx⟩

/-- The last event makes a trace overlap if it is a start that is granted after a recording was left open. -/
lemma overlaps_concat : Overlaps (t ++ [x]) ↔ x.mark? = some .start ∧ t.LeftOpen ∨ t.Overlaps := by
  rw [Overlaps, exists_cut_concat]
  rfl

/-- A recording that was left open is no recording of the engine's. -/
lemma LeftOpen.not_recording (lo : LeftOpen t) : ¬ t.Recording := by
  obtain ⟨t₁, y, t₂, rfl, ⟨d, success, rfl, _, _⟩, h⟩ := lo
  intro hr
  have hm : (Event.applied .stop d success).mark? = some .stop := rfl
  rw [Recording, List.filterMap_append, List.filterMap_cons_some hm, List.getLast?_append, List.getLast?_cons] at hr
  cases hl : (t₂.filterMap Event.mark?).getLast? with
  | none =>
    rw [hl] at hr
    cases hr
  | some m =>
    rw [hl] at hr
    obtain ⟨y, hy, hm⟩ := List.mem_filterMap.1 (List.mem_of_getLast? hl)
    cases hr
    exact (h y hy).1 hm

end Trace

/-- What the recorder and its journal have to do with the trace. -/
structure Told (t : Trace) (r : Recorder) : Prop where
  tracking : r.tracking = true ↔ t.Recording
  /-- A span is open in the journal while the engine records, or because its stop was refused. -/
  span : r.journal.marks.getLast? = some .start ↔ r.tracking = true ∨ t.LeftOpen
  alternates : r.journal.Alternates ↔ ¬ t.Overlaps

namespace Told

variable {t : Trace} {r r' : Recorder} {c : EngineCall} {x : Event} {success : Bool}

/-- An event that bears on no span. -/
lemma silent (te : Told t r) (hx : x.mark? = none) (ht : r'.tracking = r.tracking)
    (hm : r'.journal.marks = r.journal.marks) : Told (t ++ [x]) r' := by
  have hn : x.replaces = false := by cases x <;> first | rfl | cases hx
  have lo : Trace.LeftOpen (t ++ [x]) ↔ t.LeftOpen := by
    rw [Trace.leftOpen_concat]
    constructor
    · rintro (⟨d, success, rfl, _⟩ | ⟨h, _⟩)
      · cases hx
      · exact h
    · intro h
      exact .inr ⟨h, by simp [hx], hn⟩
  refine ⟨?_, ?_, ?_⟩
  · rw [ht, te.tracking, Trace.recording_concat_of_unmarked hx]
  · rw [hm, ht, te.span, lo]
  · rw [Journal.alternates_congr hm, te.alternates, Trace.overlaps_concat]
    simp [hx]

/-- An event that ends the recording, with nothing left open. -/
lemma ended (te : Told t r) (hx : x.mark? = some .stop) (ht : r'.tracking = false)
    (lo : ¬ Trace.LeftOpen (t ++ [x])) (hs : r'.journal.marks.getLast? ≠ some .start)
    (ha : r'.journal.Alternates ↔ r.journal.Alternates) : Told (t ++ [x]) r' := by
  refine ⟨?_, ?_, ?_⟩
  · simp [ht, Trace.recording_concat_of_mark hx]
  · simp [ht, lo, hs]
  · rw [ha, te.alternates, Trace.overlaps_concat]
    simp [hx]

/-- A call that is applied is told of in the trace, whatever the disk made of it. -/
lemma apply (te : Told t r) (up : Upshot r c r' success) : Told (t ++ [.applied c r.disk success]) r' := by
  cases up with
  | running ht =>
    have hr := te.tracking.1 ht
    have lo : ¬ t.LeftOpen := fun lo => lo.not_recording hr
    refine ⟨?_, ?_, ?_⟩
    · simp [ht, Trace.recording_concat_of_mark (x := .applied (.start _) r.disk true) rfl]
    · rw [te.span]
      simp [ht]
    · rw [te.alternates, Trace.overlaps_concat]
      simp [lo]
  | unregistered _ _ => exact te.silent rfl rfl rfl
  | unopened _ _ _ => exact te.silent rfl rfl rfl
  | @opened origin ht hr hd =>
    refine ⟨?_, ?_, ?_⟩
    · simp [Trace.recording_concat_of_mark (x := .applied (.start origin) r.disk true) rfl]
    · simp [Line.mark?]
    -- The row follows a start just if the last recording was left open.
    · rw [Journal.alternates_write_start, te.alternates, ne_eq, te.span, Trace.overlaps_concat]
      simp [ht, Event.mark?, and_comm]
  | idle ht =>
    have hr : ¬ t.Recording := fun hr => by simp [te.tracking.2 hr] at ht
    -- A stop that finds no recording does not close what was left open either.
    have lo : Trace.LeftOpen (t ++ [.applied .stop r.disk true]) ↔ t.LeftOpen := by
      rw [Trace.leftOpen_concat]
      simp [hr, Event.mark?, Event.replaces]
    refine ⟨?_, ?_, ?_⟩
    · simp [ht, Trace.recording_concat_of_mark (x := .applied .stop r.disk true) rfl]
    · rw [te.span, lo]
    · rw [te.alternates, Trace.overlaps_concat]
      simp [Event.mark?]
  | unclosed ht hd =>
    have lo : Trace.LeftOpen (t ++ [.applied .stop r.disk true]) :=
      Trace.leftOpen_concat.2 (.inl ⟨_, _, rfl, hd, te.tracking.1 ht⟩)
    have hs := te.span.2 (.inl ht)
    refine ⟨?_, ?_, ?_⟩
    · simp [Trace.recording_concat_of_mark (x := .applied .stop r.disk true) rfl]
    · simp [hs, lo]
    · rw [Trace.overlaps_concat]
      simpa [Event.mark?] using te.alternates
  | closed ht hd =>
    refine te.ended rfl rfl ?_ ?_ ?_
    · rw [Trace.leftOpen_concat]
      rintro (⟨d, success, h, hn, _⟩ | ⟨lo, _⟩)
      · cases h
        rw [hd] at hn
        cases hn
      · exact lo.not_recording (te.tracking.1 ht)
    · simp [Line.mark?]
    · exact Journal.alternates_write_stop (te.span.2 (.inl ht))
  | discarded _ => exact te.silent rfl rfl rfl
  | repeated _ _ => exact te.silent rfl rfl rfl
  | unnoted _ _ _ => exact te.silent rfl rfl rfl
  | noted _ _ _ => exact te.silent rfl rfl (by simp [Line.mark?])
  | rejected _ => exact te.silent rfl rfl rfl
  | unsaved _ _ => exact te.silent rfl rfl rfl
  | registered _ _ => exact te.silent rfl rfl rfl

/-- Whatever changes the recorder is told of in the trace. -/
lemma change {x} (te : Told t r) (ch : Change r x r') : Told (t ++ x) r' := by
  cases ch with
  | ask => exact te.silent rfl rfl rfl
  | work up => exact te.apply up
  | disk =>
    rw [List.append_nil]
    exact ⟨te.tracking, te.span, te.alternates⟩
  | reopen ho =>
    have lo : ¬ Trace.LeftOpen (t ++ [.reopened r.disk]) := by
      rw [Trace.leftOpen_concat]
      simp [Event.replaces]
    obtain ⟨j, rfl, h⟩ := Recorder.open?_eq_some.1 ho
    rw [ne_eq, Journal.lastMark?_eq] at h
    rcases h with ⟨hm, rfl⟩ | ⟨hm, _, rfl⟩
    · exact te.ended rfl rfl lo hm .rfl
    · exact te.ended rfl rfl lo (by simp [Line.mark?]) (Journal.alternates_write_stop hm)

/-- An engine that opens an alternating journal has nothing to tell of yet. -/
lemma opened {j : Journal} {e} (ho : JournalEngine.open? j = some e) (hj : j.Alternates) : Told [] e.recorder := by
  have hn : ¬ Trace.LeftOpen [] := by simp [Trace.LeftOpen]
  have hn' : ¬ Trace.Overlaps [] := by simp [Trace.Overlaps]
  obtain ⟨r, hr, rfl⟩ := open?_eq_some.1 ho
  obtain ⟨j', rfl, h⟩ := Recorder.open?_eq_some.1 hr
  rw [ne_eq, Journal.lastMark?_eq] at h
  rcases h with ⟨hm, rfl⟩ | ⟨hm, _, rfl⟩
  · exact ⟨by simp [Trace.Recording], by simp [hm, hn], by simp [hj, hn']⟩
  · have ha := (Journal.alternates_write_stop hm).2 hj
    exact ⟨by simp [Trace.Recording], by simp [Line.mark?, hn], by simp [ha, hn']⟩

end Told

/-- Starts and stops alternate in the journal, whatever rows the disk refuses, unless an engine grants a start after the
stop of its last recording was refused. -/
theorem alternates_iff {j : Journal} {e₀ t e} (opened : JournalEngine.open? j = some e₀) (hj : j.Alternates)
    (run : Run e₀ t e) : e.recorder.journal.Alternates ↔ ¬ t.Overlaps :=
  (run.keeps (Told.opened opened hj) Told.change).alternates

/-- There is a run in which a stop is refused and a start is granted after it. -/
lemma refusedStop_run :
    ∃ t e, Run unused t e ∧ (∀ x ∈ t, ∀ d ∈ x.disk?, d.registration = true) ∧ ¬ e.recorder.journal.Alternates := by
  have begun : Run unused [] unused := .refl
  have registered := begun.call rfl rfl (.login ⟨"srv", "u", "p", "dev"⟩ none 0)
  have started := registered.call rfl rfl (.start .user)
  have full := started.step (.disk (d := ⟨false, true⟩))
  have stopped := full.call rfl rfl .stop
  have repaired := stopped.step (.disk (d := ⟨true, true⟩))
  have restarted := repaired.call rfl rfl (.start .user)
  exact ⟨_, _, restarted, by decide, by decide⟩

/-- After a refused stop and another start the trace has an overlap. -/
theorem alternates_iff_refusedStop : ∃ t e, Run unused t e ∧ t.Overlaps := by
  obtain ⟨t, e, run, _, ha⟩ := refusedStop_run
  refine ⟨t, e, run, ?_⟩
  by_contra hn
  exact ha ((alternates_iff (j := .fresh) rfl (by decide) run).2 hn)

/-- A start can follow a start, though every login is saved. -/
theorem not_always_alternating : ¬ ∀ {e₀ t e}, JournalEngine.open? .fresh = some e₀ → Run e₀ t e →
    (∀ x ∈ t, ∀ d ∈ x.disk?, d.registration = true) → e.recorder.journal.Alternates := by
  intro alternating
  obtain ⟨t, e, run, hd, ha⟩ := refusedStop_run
  exact ha (alternating rfl run hd)

end JournalEngine

end FocusJournal
