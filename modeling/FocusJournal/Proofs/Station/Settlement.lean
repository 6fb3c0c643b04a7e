import FocusJournal.Proofs.Recorder.Span
import FocusJournal.Proofs.Station.Tracking

/-!
# Settled windows in the journal

When an acknowledgment settles a window, the call to note its URL goes to the end of the queue, behind calls whose
number and kind nothing limits. `settled_shown` says that it is not made in vain: the calls are applied in the order in
which they were made (`Run.calls_eq`), none of those ahead of it is a stop, so that the engine still records when its
turn comes, and what the recorder takes for the application noted last is what the journal shows (`Run.coherent`).
-/

namespace FocusJournal

/-- A switch comes out well where the window has one active tab, and goes to its URL. -/
lemma Focus.outcome_eq_tracking {window window' : WindowId} {tabs : List ActiveTab} {url : String} :
    Focus.outcome window tabs = .tracking window' url ↔ window = window' ∧ ∃ tab, tabs = [tab] ∧ tab.url = url := by
  match tabs with
  | [] => simp [outcome]
  | [tab] => simp [outcome]
  | _ :: _ :: _ => simp [outcome]

/-- An acknowledgment has the engine switch to a URL exactly where it settles a window whose one active tab has it. -/
lemma Reaction.switchUrl_iff {r r' : Reporter} {success origin calls url}
    (re : Reaction r (.startAcked success origin) r' calls) :
    calls = [.switchUrl url] ↔ ∃ window, r.settling? success origin = some window ∧
      Focus.outcome window (r.view.activeTabs window) = .tracking window url := by
  rcases re.of_started with ⟨window, hw, completes⟩ | ⟨hn, _, rfl⟩
  · constructor
    · rintro rfl
      rcases completes with ⟨tab, ht, _, hc⟩ | ⟨_, _, hc⟩
      · cases hc
        exact ⟨window, hw, Focus.outcome_eq_tracking.2 ⟨rfl, tab, ht, rfl⟩⟩
      · cases hc
    · rintro ⟨window', hw', hu⟩
      cases hw.symm.trans hw'
      obtain ⟨_, tab, ht, rfl⟩ := Focus.outcome_eq_tracking.1 hu
      rcases completes with ⟨tab', ht', _, rfl⟩ | ⟨several, _⟩
      · cases ht.symm.trans ht'
        rfl
      · rw [ht] at several
        exact absurd rfl several
  · simp [hn]

/-- Only the acknowledgment of a start for a window has the engine switch, and the focus is on that window then. -/
lemma Reaction.of_switchUrl {r r' : Reporter} {success origin url}
    (re : Reaction r (.startAcked success origin) r' [.switchUrl url]) :
    ∃ window generation, origin = .window window generation ∧ r'.focus.state = .tracking window := by
  rcases re.of_started with ⟨window, hw, ⟨_, _, rfl, _⟩ | ⟨_, _, hc⟩⟩ | ⟨_, _, hc⟩
  · exact ⟨window, _, (Reporter.settling?_eq_some hw).2, rfl⟩
  · cases hc
  · cases hc

namespace Station

/-- The calls that a step makes join the queue at its end, and the call that it applies leaves it at the front. -/
lemma Step.calls_eq {s e s'} (st : Step s e s') (alive : s.engine.alive = true) :
    s.engine.queue ++ e.calls = e.applied ++ s'.engine.queue := by
  cases st with
  | post _ => simp [Trace.calls, Trace.applied, turn, Station.post]
  | handle hi =>
    obtain ⟨r, calls, answers, _, eq⟩ := turn_handle alive hi
    rw [eq]
    simp [Trace.calls, Trace.applied, Event.calls, Event.applied?]
  | work hq =>
    rw [turn_work hq, hq]
    simp [Trace.calls, Trace.applied, Event.calls, Event.applied?]
  | disk => simp [Trace.calls, Trace.applied, onDisk]

/-- A step leaves the recorder coherent. -/
lemma Step.coherent {s e s'} (st : Step s e s') (alive : s.engine.alive = true) (co : Coherent s.engine.recorder) :
    Coherent s'.engine.recorder := by
  cases st with
  | post _ => exact co
  | handle hi =>
    obtain ⟨r, calls, answers, _, eq⟩ := turn_handle alive hi
    rw [eq]
    exact co
  | @work c _ hq =>
    rw [turn_work hq]
    exact co.apply c
  | disk => exact co.onDisk _

/-- An engine that records still does so after a step, unless the step applies a stop. -/
lemma Step.keeps_recording {s e s'} (st : Step s e s') (alive : s.engine.alive = true)
    (ht : s.engine.recorder.tracking = true) (hs : .stop ∉ e.applied) : s'.engine.recorder.tracking = true := by
  cases st with
  | post _ => exact ht
  | handle hi =>
    obtain ⟨r, calls, answers, _, eq⟩ := turn_handle alive hi
    rw [eq]
    exact ht
  | @work c _ hq =>
    have hc : c ≠ .stop := by
      rintro rfl
      exact hs (.head _)
    rw [turn_work hq]
    exact (JournalEngine.apply_keeps ht hc).1
  | disk => exact ht

namespace Run

variable {s₀ s : Station JournalEngine} {t : Trace}

/-- Calls are applied once each and in the order in which they were made. -/
theorem calls_eq (run : Run s₀ t s) (alive : s₀.engine.alive = true) :
    s₀.engine.queue ++ t.calls = t.applied ++ s.engine.queue := by
  induction run with
  | refl => simp [Trace.calls, Trace.applied]
  | step run st ih =>
    rw [Trace.calls_append, Trace.applied_append, ← List.append_assoc, ih, List.append_assoc, List.append_assoc,
      st.calls_eq (run.alive alive)]

/-- A run leaves the recorder coherent. -/
lemma coherent (run : Run s₀ t s) (alive : s₀.engine.alive = true) (co : Coherent s₀.engine.recorder) :
    Coherent s.engine.recorder := by
  induction run with
  | refl => exact co
  | step run st ih => exact st.coherent (run.alive alive) ih

/-- An engine that records still does so after a run that applies no stop. -/
lemma keeps_recording (run : Run s₀ t s) (alive : s₀.engine.alive = true) (ht : s₀.engine.recorder.tracking = true)
    (hs : .stop ∉ t.applied) : s.engine.recorder.tracking = true := by
  induction run with
  | refl => exact ht
  | step run st ih =>
    rw [Trace.applied_append, List.mem_append, not_or] at hs
    exact st.keeps_recording (run.alive alive) (ih hs.1) hs.2

end Run

/-- The recorder of a station that can be reached is coherent. -/
lemma Reachable.coherent {s : Station JournalEngine} (reach : Reachable s) : Coherent s.engine.recorder := by
  obtain ⟨s₀, t, fresh, run⟩ := reach
  exact run.coherent fresh.alive (.of_not_tracking fresh.eq.2.2.2.2.2.2)

/-- An acknowledgment has the engine switch to a URL exactly where it settles a window whose one active tab has it. The
focus is on that window then, and the URL is shown in the journal, whatever happens meanwhile: the call to note it waits
behind those that waited already, and when these have been applied, it comes next, the engine records, and once it is
applied too the journal ends with an open span whose last switch goes to the application of the URL, unless the disk
refuses that very row. -/
theorem settled_shown {s : Station JournalEngine} {success origin rest url} (reach : Reachable s)
    (hi : s.inbox = .startAcked success origin :: rest) :
    ((s.turn .handle).2.calls = [.switchUrl url] ↔ ∃ window, s.reporter.settling? success origin = some window ∧
      Focus.outcome window (s.reporter.view.activeTabs window) = .tracking window url) ∧
    ((s.turn .handle).2.calls = [.switchUrl url] →
      (∃ window generation, origin = .window window generation ∧
        (s.turn .handle).1.reporter.focus.state = .tracking window) ∧
      (s.turn .handle).1.engine.queue = s.engine.queue ++ [.switchUrl url] ∧
      ∀ {t s'}, Run (s.turn .handle).1 t s' → t.applied = s.engine.queue →
        (∃ calls, s'.engine.queue = .switchUrl url :: calls) ∧ s'.engine.recorder.tracking = true ∧
          (s'.engine.recorder.disk.events = true →
            (s'.turn .work).1.engine.recorder.tracking = true ∧
              (s'.turn .work).1.engine.recorder.journal.Shows (appName url))) := by
  obtain ⟨s₀, t₀, fresh, run₀⟩ := reach
  have handled := run₀.step (.handle hi)
  have alive := handled.alive fresh.alive
  obtain ⟨r, calls, answers, re, eq⟩ := turn_handle (run₀.alive fresh.alive) hi
  have made : (s.turn .handle).2.calls = calls := by rw [eq]
  rw [made]
  refine ⟨re.switchUrl_iff, ?_⟩
  rintro rfl
  have after : (s.turn .handle).1.reporter = r := by rw [eq]
  have hq : (s.turn .handle).1.engine.queue = s.engine.queue ++ [.switchUrl url] := by rw [eq]
  obtain ⟨window, generation, ho, hf⟩ := re.of_switchUrl
  rw [← after] at hf
  refine ⟨⟨window, generation, ho, hf⟩, hq, ?_⟩
  intro t s' run hap
  -- No stop is ahead of the call, and it is next when what was ahead of it has been applied.
  obtain ⟨_, _, ⟨ht, hs⟩, _⟩ := (handled.sound (.fresh fresh)).tracking window hf
  have ht' : s'.engine.recorder.tracking = true := by
    refine run.keeps_recording alive ht fun hm => hs ?_
    rw [hq, ← hap]
    exact List.mem_append_left _ hm
  have hq' : s'.engine.queue = .switchUrl url :: t.calls := by
    have h := run.calls_eq alive
    rw [hq, hap, List.append_assoc] at h
    exact (List.append_cancel_left h).symm
  refine ⟨⟨_, hq'⟩, ht', fun hd => ?_⟩
  have co : Coherent s'.engine.recorder := Reachable.coherent ⟨s₀, _, fresh, handled.trans run⟩
  rw [turn_work hq']
  exact ⟨by simpa [JournalEngine.apply] using ht', co.switch_shows ht' hd url⟩

/-- A tick finds the focus on a window, but the start for it is answered only when another page has been loaded. -/
def slowStart : List Turn := [
  .post (.control .startTracking none 0), .handle,
  .post (.notification (.snapshot [⟨1, true, [⟨7, "https://a.example", true⟩]⟩])), .handle,
  .post (.focus .pollTick), .handle,
  .post (.notification (.tabUpdated 8 (some 2) "https://b.example")), .handle,
  .work, .work, .handle]

/-- The window is settled while another switch waits, and the user asks not to be tracked before either is applied. -/
theorem settled_shown_slowStart :
    let s := ((opened (some device)).play slowStart).1
    let s' := ((s.turn .handle).1.play [.post (.control .stopTracking none 0), .handle, .work]).1
    s.engine.queue = [.switchUrl "https://b.example"] ∧
      (s.turn .handle).2.calls = [.switchUrl "https://a.example"] ∧ s'.engine.recorder.tracking = true ∧
      (s'.turn .work).1.engine.recorder.journal.Shows (appName "https://a.example") := by
  intro s s'
  have reach : Reachable s := ⟨_, _, opened_fresh _, .play (by simp [slowStart, Input.isAcknowledgment])⟩
  have run : Run (s.turn .handle).1 _ s' := .play (by simp [Input.isAcknowledgment])
  have hi : s.inbox = [.startAcked true (.window 1 1)] := by decide
  have called : (s.turn .handle).2.calls = [.switchUrl "https://a.example"] := by decide
  obtain ⟨_, _, shown⟩ := (settled_shown reach hi).2 called
  obtain ⟨_, ht, shows⟩ := shown run (by decide)
  exact ⟨by decide, called, ht, (shows (by decide)).2⟩

end Station

end FocusJournal
