import FocusJournal.Proofs.Engine.Run
import FocusJournal.Proofs.Recorder.Span
import Mathlib.Data.List.Destutter

/-!
# The chronicle of a run

What stands in a journal can be told from the calls alone, if no write is refused. A start opens a span if a device is
registered, a stop ends it, and so does another engine that takes up the journal; in between the URLs count that were
switched to. `Chronicle` keeps these, without any notion of rows, of a last row or of an application noted last, and
`journal_spans` says that the journal is what they make of it: the spans one after the other, and in each the
applications of its URLs, of neighbours that are equal only the first.
-/

namespace FocusJournal

/-- An element at the end of a list stays, unless the one before it is equal. -/
lemma destutter_concat {α : Type} [DecidableEq α] (l : List α) (a : α) :
    (l ++ [a]).destutter (· ≠ ·) =
      if l.getLast? = some a then l.destutter (· ≠ ·) else l.destutter (· ≠ ·) ++ [a] := by
  have from' (l : List α) (b : α) : (l ++ [a]).destutter' (· ≠ ·) b =
      if (b :: l).getLast? = some a then l.destutter' (· ≠ ·) b else l.destutter' (· ≠ ·) b ++ [a] := by
    induction l generalizing b with
    | nil => by_cases h : b = a <;> simp [h]
    | cons c l ih =>
      by_cases h : b = c
      · subst h
        rw [List.cons_append, List.destutter'_cons_neg _ (by simp), List.destutter'_cons_neg _ (by simp), ih,
          List.getLast?_cons_cons]
      · rw [List.cons_append, List.destutter'_cons_pos _ h, List.destutter'_cons_pos _ h, ih, List.getLast?_cons_cons]
        split <;> rfl
  cases l with
  | nil => rfl
  | cons b l => exact from' l b

namespace Journal

/-- The ids of the rows are 1, 2, 3 and so on. -/
def Numbered (j : Journal) : Prop := j.rows.map Row.id = List.range' 1 j.rows.length

/-- The next id of a numbered journal is one more than it has rows. -/
lemma Numbered.nextId {j : Journal} (nu : j.Numbered) : j.nextId = j.rows.length + 1 := by
  unfold Journal.nextId
  split
  · next row h =>
    have hl : (j.rows.map Row.id).getLast? = some row.id := by rw [List.getLast?_map, h]; rfl
    rw [nu, List.getLast?_range'] at hl
    split at hl
    · cases hl
    · simpa [Nat.add_comm] using (Option.some.inj hl).symm
  · next h => rw [List.getLast?_eq_none_iff.1 h]; rfl

/-- A numbered journal stays so when a row is written. -/
lemma Numbered.write {j : Journal} (nu : j.Numbered) (kind : RowKind) (app : Option String) :
    (j.write kind app).Numbered := by
  rw [Numbered, write_rows, List.map_append, nu, List.length_append, nu.nextId, List.length_singleton,
    List.range'_1_concat]
  simp [Nat.add_comm]

end Journal

namespace JournalEngine

/-- The spans of a journal as the calls tell of them: the URLs that were switched to in each of those that have ended,
and in the one that is open, if one is. -/
structure Chronicle where
  past : List (List String)
  present : Option (List String)
  /-- A device is registered. -/
  registered : Bool

namespace Chronicle

/-- The open span has ended, if there was one. -/
def close (k : Chronicle) : Chronicle := { k with past := k.past ++ k.present.toList, present := none }

/-- What an event adds to the chronicle. -/
def note (k : Chronicle) : Event → Chronicle
  | .applied (.start _) _ _ => if k.registered then { k with present := some (k.present.getD []) } else k
  | .applied .stop _ _ => k.close
  | .applied (.switchUrl url) _ _ => { k with present := k.present.map fun urls => urls ++ [url] }
  | .applied (.login credentials _ _) _ _ => { k with registered := k.registered || Recorder.accepts credentials }
  | .reopened _ => k.close
  | .asked _ => k

/-- The applications of URLs, each as often as it is left and entered again. -/
def apps (urls : List String) : List String := (urls.map appName).destutter (· ≠ ·)

/-- What the journal says of the spans. -/
def lines (k : Chronicle) : List Line :=
  (k.past.flatMap fun urls => Line.span (apps urls) ++ [.stop]) ++ k.present.elim [] fun urls => Line.span (apps urls)

end Chronicle

/-- The chronicle of a run that begins without a span. -/
def Trace.chronicle (registered : Bool) (t : Trace) : Chronicle := t.foldl Chronicle.note ⟨[], none, registered⟩

/-- Whether the disk refuses no write in an event. -/
def Event.unhindered (x : Event) : Bool := x.disk?.all fun d => d.events && d.registration

namespace Chronicle

/-- In a span, a start adds nothing to the chronicle. -/
lemma note_start_of_some {k : Chronicle} {urls origin d success} (h : k.present = some urls) :
    k.note (.applied (.start origin) d success) = k := by
  cases k
  cases h
  simp [note]

/-- Outside of spans, a start opens one if a device is registered. -/
lemma note_start_of_none {k : Chronicle} {origin d success} (h : k.present = none) :
    k.note (.applied (.start origin) d success) = if k.registered then { k with present := some [] } else k := by
  cases k
  cases h
  rfl

/-- Outside of spans, a switch adds nothing to the chronicle. -/
lemma note_switch_of_none {k : Chronicle} {url d success} (h : k.present = none) :
    k.note (.applied (.switchUrl url) d success) = k := by
  cases k
  cases h
  rfl

/-- In a span, the URL of a switch is the next one there. -/
lemma note_switch_of_some {k : Chronicle} {urls url d success} (h : k.present = some urls) :
    k.note (.applied (.switchUrl url) d success) = { k with present := some (urls ++ [url]) } := by
  simp [note, h]

/-- The application of another URL is one more, unless it is the one of the URL before. -/
lemma apps_concat (urls : List String) (url : String) :
    apps (urls ++ [url]) =
      if (urls.map appName).getLast? = some (appName url) then apps urls else apps urls ++ [appName url] := by
  rw [apps, List.map_append]
  exact destutter_concat _ _

/-- Without an open span, there are the lines of those that have ended. -/
lemma lines_of_none {k : Chronicle} (h : k.present = none) :
    k.lines = k.past.flatMap fun urls => Line.span (apps urls) ++ [.stop] := by
  simp [lines, h]

/-- The lines of the open span come after those of the spans that have ended. -/
lemma lines_of_some {k : Chronicle} {urls} (h : k.present = some urls) :
    k.lines = (k.past.flatMap fun urls => Line.span (apps urls) ++ [.stop]) ++ Line.span (apps urls) := by
  simp [lines, h]

/-- Where no span is open, there is none to close. -/
lemma lines_close_of_none {k : Chronicle} (h : k.present = none) : k.close.lines = k.lines := by
  simp [close, lines, h]

/-- An open span is closed by a stop. -/
lemma lines_close_of_some {k : Chronicle} {urls} (h : k.present = some urls) : k.close.lines = k.lines ++ [.stop] := by
  simp [close, lines, h]

/-- A switch adds a line to the open span, unless it stays with the application. -/
lemma lines_switch {k : Chronicle} {urls} (h : k.present = some urls) (url : String) :
    ({ k with present := some (urls ++ [url]) } : Chronicle).lines =
      if (urls.map appName).getLast? = some (appName url) then k.lines else k.lines ++ [.switch (appName url)] := by
  rw [lines_of_some rfl, lines_of_some h, apps_concat]
  split
  · rfl
  · rw [Line.span_concat, List.append_assoc]

/-- The last mark of the lines is a start just if a span is open. -/
lemma lastMark?_lines (k : Chronicle) :
    (k.lines.filterMap Line.mark?).getLast? = some .start ↔ k.present.isSome = true := by
  cases h : k.present with
  | some urls => simp [lines_of_some h]
  | none =>
    rw [lines_of_none h]
    rcases List.eq_nil_or_concat k.past with hp | ⟨past, urls, hp⟩
    · simp [hp]
    · simp [hp, Line.stop, Line.mark?]

end Chronicle

/-- The journal is what the chronicle makes of it, and the recorder is in the state that fits. -/
structure Kept (k : Chronicle) (r : Recorder) : Prop where
  lines : r.journal.lines = k.lines
  numbered : r.journal.Numbered
  tracking : r.tracking = k.present.isSome
  app : r.app = k.present.bind fun urls => (urls.map appName).getLast?
  registered : r.registered = k.registered
  registration : r.journal.registration.isSome = k.registered

namespace Kept

variable {k : Chronicle} {r r' : Recorder} {c : EngineCall} {success : Bool}

/-- A recorder that does not record has no span open. -/
lemma present_eq_none (ke : Kept k r) (ht : r.tracking = false) : k.present = none := by
  have h := ke.tracking
  rw [ht] at h
  exact Option.isSome_eq_false_iff.1 h.symm |> Option.isNone_iff_eq_none.1

/-- A recorder that records has a span open. -/
lemma present_eq_some (ke : Kept k r) (ht : r.tracking = true) : ∃ urls, k.present = some urls := by
  have h := ke.tracking
  rw [ht] at h
  exact Option.isSome_iff_exists.1 h.symm

/-- The last mark in the journal is a start just if a span is open. -/
lemma lastMark?_iff (ke : Kept k r) : r.journal.lastMark? = some .start ↔ k.present.isSome = true := by
  rw [Journal.lastMark?_eq, Journal.marks, ke.lines]
  exact k.lastMark?_lines

/-- A journal that is the same but for the end of the open span keeps the chronicle in which that span is closed. -/
lemma close {j : Journal} (ke : Kept k r) (hj : j.lines = k.close.lines) (hn : j.Numbered)
    (hr : j.registration = r.journal.registration) : Kept k.close ⟨j, false, r.registered, none⟩ :=
  ⟨hj, hn, rfl, rfl, ke.registered, hr ▸ ke.registration⟩

/-- The journal keeps to the chronicle when a call is applied and nothing is refused. -/
lemma apply (ke : Kept k r) (up : Upshot r c r' success) (de : r.disk.events = true)
    (dr : r.disk.registration = true) : Kept (k.note (.applied c r.disk success)) r' := by
  cases up with
  | running ht =>
    obtain ⟨urls, hp⟩ := ke.present_eq_some ht
    rw [Chronicle.note_start_of_some hp]
    exact ke
  | unregistered ht hr =>
    rw [Chronicle.note_start_of_none (ke.present_eq_none ht), ← ke.registered, hr]
    exact ke
  | unopened _ _ hd => rw [hd] at de; cases de
  | opened ht hr hd =>
    have hp := ke.present_eq_none ht
    have hk : k.registered = true := ke.registered ▸ hr
    rw [Chronicle.note_start_of_none hp, if_pos hk]
    refine ⟨?_, ke.numbered.write _ _, rfl, rfl, ke.registered, ke.registration⟩
    rw [Journal.lines_write, ke.lines, Chronicle.lines_of_none hp]
    simp [Chronicle.lines, Line.span, Line.start, Chronicle.apps]
  | idle ht =>
    have hp := ke.present_eq_none ht
    have ha : r.app = none := by rw [ke.app, hp]; rfl
    have closed := ke.close (ke.lines.trans (Chronicle.lines_close_of_none hp).symm) ke.numbered rfl
    rw [← ht, ← ha] at closed
    exact closed
  | unclosed _ hd => rw [hd] at de; cases de
  | closed ht hd =>
    obtain ⟨urls, hp⟩ := ke.present_eq_some ht
    refine ke.close ?_ (ke.numbered.write _ _) rfl
    rw [Journal.lines_write, ke.lines, Chronicle.lines_close_of_some hp]
    rfl
  | discarded ht =>
    rw [Chronicle.note_switch_of_none (ke.present_eq_none ht)]
    exact ke
  | @repeated url ht ha =>
    obtain ⟨urls, hp⟩ := ke.present_eq_some ht
    -- The application noted last is that of the last URL, so the new URL has the same one.
    have last : (urls.map appName).getLast? = some (appName url) := by
      rw [← ha, ke.app, hp]
      rfl
    rw [Chronicle.note_switch_of_some hp]
    refine ⟨?_, ke.numbered, ht, ?_, ke.registered, ke.registration⟩
    · rw [Chronicle.lines_switch hp, if_pos last, ke.lines]
    · simp [ha]
  | unnoted _ _ hd => rw [hd] at de; cases de
  | @noted url ht ha hd =>
    obtain ⟨urls, hp⟩ := ke.present_eq_some ht
    have last : (urls.map appName).getLast? ≠ some (appName url) := by
      intro h
      rw [ke.app, hp] at ha
      exact ha h
    rw [Chronicle.note_switch_of_some hp]
    refine ⟨?_, ke.numbered.write _ _, ht, ?_, ke.registered, ke.registration⟩
    · rw [Chronicle.lines_switch hp, if_neg last, Journal.lines_write, ke.lines]
      rfl
    · simp
  | rejected ha => simpa [Chronicle.note, ha] using ke
  | unsaved _ hd => rw [hd] at dr; cases dr
  | registered ha hd =>
    refine ⟨ke.lines, ke.numbered, ke.tracking, ke.app, ?_, ?_⟩
    · simp [Chronicle.note, ha]
    · simp [Chronicle.note, ha]

/-- The journal keeps to the chronicle, whatever changes the recorder, if nothing is refused. -/
lemma change {x} (ke : Kept k r) (ch : Change r x r') (hd : ∀ y ∈ x, y.unhindered = true) :
    Kept (x.foldl Chronicle.note k) r' := by
  cases ch with
  | ask => exact ke
  | work up =>
    have h := hd _ (.head _)
    simp only [Event.unhindered, Event.disk?, Option.all_some, Bool.and_eq_true] at h
    exact ke.apply up h.1 h.2
  | disk => exact ⟨ke.lines, ke.numbered, ke.tracking, ke.app, ke.registered, ke.registration⟩
  | reopen ho =>
    obtain ⟨j, rfl, h⟩ := Recorder.open?_eq_some.1 ho
    -- The new engine looks at the last mark, and that is a start exactly where the chronicle has an open span.
    rw [ne_eq, ke.lastMark?_iff] at h
    rcases h with ⟨hm, rfl⟩ | ⟨hm, _, rfl⟩
    · have hp : k.present = none := by simpa using hm
      have closed := ke.close (ke.lines.trans (Chronicle.lines_close_of_none hp).symm) ke.numbered rfl
      rw [ke.registered, ← ke.registration] at closed
      exact closed
    · obtain ⟨urls, hp⟩ := Option.isSome_iff_exists.1 hm
      have hl : (r.journal.write (.event .stop) none).lines = k.close.lines := by
        rw [Journal.lines_write, ke.lines, Chronicle.lines_close_of_some hp]
        rfl
      have closed := ke.close hl (ke.numbered.write _ _) rfl
      rw [ke.registered, ← ke.registration] at closed
      exact closed

/-- A journal without rows is what a chronicle without spans makes of it. -/
lemma opened {j : Journal} {e} (ho : JournalEngine.open? j = some e) (hj : j.rows = []) :
    Kept ⟨[], none, j.registration.isSome⟩ e.recorder := by
  obtain ⟨r, hr, rfl⟩ := open?_eq_some.1 ho
  obtain ⟨j', rfl, h⟩ := Recorder.open?_eq_some.1 hr
  have hm : j.lastMark? ≠ some .start := by simp [Journal.lastMark?, hj]
  obtain ⟨_, rfl⟩ := h.resolve_right fun h => hm h.1
  refine ⟨?_, ?_, rfl, rfl, rfl, rfl⟩
  · simp [Journal.lines, hj, Chronicle.lines]
  · simp [Journal.Numbered, hj]

/-- The journal keeps to the chronicle throughout a run in which nothing is refused. -/
lemma run {k e₀ t e} (ke : Kept k e₀.recorder) (run : Run e₀ t e) (hd : ∀ x ∈ t, x.unhindered = true) :
    Kept (t.foldl Chronicle.note k) e.recorder := by
  revert hd
  refine run.keeps (P := fun t r => (∀ x ∈ t, x.unhindered = true) → Kept (t.foldl Chronicle.note k) r) ?_ ?_
  · exact fun _ => ke
  · intro t r x r' ih ch hd
    rw [List.forall_mem_append] at hd
    rw [List.foldl_append]
    exact (ih hd.1).change ch hd.2

end Kept

/-- A recorder opens a span only if a device is registered. -/
lemma Change.registered {r x r'} (ch : Change r x r') (ht : r.tracking = false) (ht' : r'.tracking = true) :
    r.registered = true := by
  cases ch with
  | ask => rw [ht] at ht'; cases ht'
  | work up =>
    cases up with
    | opened _ hr _ => exact hr
    | unclosed | closed => cases ht'
    | _ => rw [ht] at ht'; cases ht'
  | disk => exact absurd (ht.symm.trans ht') (by decide)
  | reopen ho =>
    obtain ⟨j, rfl, _⟩ := Recorder.open?_eq_some.1 ho
    cases ht'

/-- Of calls and restarts in any order, the journal keeps what the chronicle says, if no write is refused. Its rows are
numbered from 1 and say of each span that it starts, which applications were switched to, and that it stops, except that
the stop of the last one is missing while the engine records. A span opens only where the journal has a
registration. -/
theorem journal_spans {j : Journal} {e₀ t e} (fresh : JournalEngine.open? j = some e₀) (hj : j.rows = [])
    (run : Run e₀ t e) (hd : ∀ x ∈ t, x.unhindered = true) :
    e.recorder.journal.Numbered ∧
      e.recorder.journal.lines = (t.chronicle j.registration.isSome).lines ∧
      e.recorder.tracking = (t.chronicle j.registration.isSome).present.isSome ∧
      e.recorder.journal.registration.isSome = (t.chronicle j.registration.isSome).registered ∧
      ∀ {x e'}, Step e x e' → e.recorder.tracking = false → e'.recorder.tracking = true →
        e.recorder.journal.registration.isSome = true := by
  have ke : Kept (t.chronicle j.registration.isSome) e.recorder := (Kept.opened fresh hj).run run hd
  refine ⟨ke.numbered, ke.lines, ke.tracking, ke.registration, ?_⟩
  intro x e' st ht ht'
  rw [ke.registration, ← ke.registered]
  exact st.change.registered ht ht'

/-- A device is registered, a span is opened, two pages of one site are visited, and the engine is dropped and replaced
before the span is closed. -/
theorem journal_spans_droppedMidway :
    let visited := ["https://a.example/1", "https://a.example/2"]
    ∃ t e, Run unused t e ∧ (t.chronicle false).past = [visited] ∧
      e.recorder.journal.lines = Line.span (Chronicle.apps visited) ++ [.stop] := by
  intro visited
  have fresh : JournalEngine.open? .fresh = some unused := rfl
  have begun : Run unused [] unused := .refl
  have registered := begun.call rfl rfl (.login ⟨"srv", "u", "p", "dev"⟩ none 0)
  have started := registered.call rfl rfl (.start .user)
  have visited₁ := started.call rfl rfl (.switchUrl "https://a.example/1")
  have visited₂ := visited₁.call rfl rfl (.switchUrl "https://a.example/2")
  have run := visited₂.step (.reopen rfl)
  obtain ⟨_, lines, _⟩ := journal_spans fresh rfl run (by decide)
  exact ⟨_, _, run, by decide, lines⟩

end JournalEngine

end FocusJournal
