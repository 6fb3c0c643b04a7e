import FocusJournal.Proofs.Reporter.Switching
import FocusJournal.Proofs.Station.Run

/-!
# Departures

A start that was asked for to switch to a window may be answered when the user has left that window. If the reporter has
noticed, the switch is superseded and the answer settles nothing. It has not noticed if the user counted as not wanting
to be tracked when the focus moved, and that can only be so between the refusal of an earlier start and the next request
to start: `departures_unheard`.
-/

namespace FocusJournal

/-- A reporter whose user wants to be tracked follows every move of the focus. -/
lemma Reporter.directive_moves {r : Reporter} {window} (ha : r.armed = true) :
    (r.directive (.windowFocusChanged window)).moves = true := by
  simp only [directive, Directive.ofEvent, ha, if_true, Directive.ofFocus]
  split <;> rfl

namespace Station

/-- The focus event that the reporter handles in an event. -/
def Event.event? (x : Event) : Option FocusEvent := x.input?.bind Input.event?

/-- No step goes back to an earlier generation. -/
lemma Step.generation_le {s e s'} (st : Step s e s') (alive : s.engine.alive = true) :
    s.reporter.focus.generation ≤ s'.reporter.focus.generation := by
  cases st with
  | post _ => exact Nat.le_refl _
  | handle hi =>
    obtain ⟨r, calls, answers, re, eq⟩ := turn_handle alive hi
    rw [eq]
    exact re.generation_le
  | work hq => exact Nat.le_of_eq (by rw [turn_work hq])
  | disk => exact Nat.le_refl _

namespace Run

variable {s s' : Station JournalEngine} {t t₁ t₂ : Trace} {x : Event}

/-- Nor does a run. -/
lemma generation_le (run : Run s t s') (alive : s.engine.alive = true) :
    s.reporter.focus.generation ≤ s'.reporter.focus.generation := by
  induction run with
  | refl => exact Nat.le_refl _
  | step run st ih => exact Nat.le_trans ih (st.generation_le (run.alive alive))

/-- What is handled in a run within one generation does not move it on. -/
lemma split_still {i done} (run : Run s (t₁ ++ .handled i done :: t₂) s') (alive : s.engine.alive = true)
    (hg : s'.reporter.focus.generation = s.reporter.focus.generation) :
    ∃ s₁ s₂, Run s t₁ s₁ ∧ Reaction s₁.reporter i s₂.reporter done.calls ∧ Run s₂ t₂ s' ∧ s₂.engine.alive = true ∧
      s₂.reporter.focus.generation = s₁.reporter.focus.generation := by
  obtain ⟨s₁, s₂, run₁, re, run₂, alive₂⟩ := run.split_handled alive
  have h₁ := run₁.generation_le alive
  have h := re.generation_le
  have h₂ := run₂.generation_le alive₂
  exact ⟨s₁, s₂, run₁, re, run₂, alive₂, by omega⟩

/-- Within one generation the user does not ask for a stop. -/
lemma unwithdrawn (run : Run s t s') (alive : s.engine.alive = true)
    (hg : s'.reporter.focus.generation = s.reporter.focus.generation) : .withdrawn ∉ t.words := by
  intro hw
  obtain ⟨x, hx, hxw⟩ := List.mem_filterMap.1 hw
  obtain ⟨t₁, t₂, rfl⟩ := List.append_of_mem hx
  cases x with
  | applied => cases hxw
  | handled i done =>
    obtain ⟨s₁, s₂, _, re, _, _, still⟩ := run.split_still alive hg
    have moved := re.generation_of_withdrawn hxw
    omega

/-- Within one generation the focus moves only while the user counts as not wanting to be tracked, because a start was
refused. If the user wants it in the end, there was a request to start since. -/
lemma unheard {window} (run : Run s (t₁ ++ x :: t₂) s') (alive : s.engine.alive = true)
    (hg : s'.reporter.focus.generation = s.reporter.focus.generation) (ha : s.reporter.armed = true)
    (ha' : s'.reporter.armed = true) (hx : x.event? = some (.windowFocusChanged window)) :
    t₁.words.getLast? = some .refused ∧ t₂.words.getLast? = some .asked := by
  have hn := run.unwithdrawn alive hg
  rw [Trace.words_append, Trace.words_cons, List.mem_append, List.mem_append, not_or, not_or] at hn
  cases x with
  | applied => cases hx
  | handled i done =>
    obtain ⟨s₁, s₂, run₁, re, run₂, alive₂, still⟩ := run.split_still alive hg
    -- A reporter whose user wants to be tracked would have moved the generation on.
    have unarmed : s₁.reporter.armed = false := by
      rw [Bool.eq_false_iff]
      intro h
      have moved := re.generation_of_moves hx (Reporter.directive_moves (by simpa using h))
      omega
    have unarmed' : s₂.reporter.armed = false := by
      have h := re.armed_eq
      rw [Input.word?_of_event hx] at h
      exact h.trans unarmed
    constructor
    · have h := run₁.armed_eq alive
      rw [unarmed, ha] at h
      cases hw : t₁.words.getLast? with
      | none => rw [hw] at h; cases h
      | some w =>
        rw [hw] at h
        cases w with
        | asked => cases h
        | withdrawn => exact absurd (List.mem_of_getLast? hw) hn.1
        | refused => rfl
    · have h := run₂.armed_eq alive₂
      rw [ha', unarmed'] at h
      exact Word.arms_iff.1 h.symm

/-- A start whose answer waits was asked for. -/
lemma begun_of_mem_inbox {s₀ i origin} (run : Run s₀ t s) (f : Fresh s₀) (hi : i ∈ s.inbox)
    (ho : i.told? = some origin) : ∃ x ∈ t, .start origin ∈ x.calls := by
  have hm : origin ∈ s.inFlight := List.mem_append_left _ (List.mem_filterMap.2 ⟨i, hi, ho⟩)
  have hb := run.begun_eq f.alive
  rw [f.inFlight, List.nil_append] at hb
  exact Trace.mem_begun.1 (hb ▸ List.mem_append_right _ hm)

end Run

/-- An acknowledgment that leads to a call settles the window that its start was asked for: the reporter follows the one
active tab of that window or gives up. From when the start was asked for the user has asked for no stop, and the focus
has moved only while the user counted as not wanting to be tracked: each time the last word before was a refusal, and
the last word since is a request to start. -/
theorem departures_unheard {s₀ t s success origin done s'} (f : Fresh s₀) (run : Run s₀ t s)
    (st : Step s [.handled (.startAcked success origin) done] s') (called : done.calls ≠ []) :
    (∃ window generation, origin = .window window generation ∧
        s.reporter.Completes window s'.reporter done.calls) ∧
      (∃ x ∈ t, .start origin ∈ x.calls) ∧
      ∀ (t₁ t₂ : Trace) (x : Event), t = t₁ ++ x :: t₂ → .start origin ∈ x.calls →
        .withdrawn ∉ t₂.words ∧
          ∀ (t₃ t₄ : Trace) (y : Event) left, t₂ = t₃ ++ y :: t₄ → y.event? = some (.windowFocusChanged left) →
            t₃.words.getLast? = some .refused ∧ t₄.words.getLast? = some .asked := by
  obtain ⟨r, rest, hi, answered, rfl⟩ := st.handled (run.alive f.alive)
  have waits : .startAcked success origin ∈ s.inbox := hi ▸ .head _
  obtain ⟨window, hw, completes⟩ | ⟨_, _, no_calls⟩ := answered.of_started
  case inr => exact absurd no_calls called
  obtain ⟨ha, rfl⟩ := Reporter.settling?_eq_some hw
  refine ⟨⟨window, _, rfl, completes⟩, run.begun_of_mem_inbox f waits rfl, ?_⟩
  rintro t₁ t₂ x rfl hx
  cases x with
  | applied => cases hx
  | handled i done =>
    obtain ⟨s₁, s₂, _, re, run₂, alive₂⟩ := run.split_handled f.alive
    -- The start that is answered now is that of the present generation, which began with it.
    rcases re.of_start hx with ⟨ho, _⟩ | ⟨event, _, he, hd, ho⟩
    · cases ho
    · have hg : s.reporter.focus.generation = s₂.reporter.focus.generation := (StartOrigin.window.inj ho).2
      have armed : s₂.reporter.armed = true := by
        have h := re.armed_eq
        rw [Input.word?_of_event he] at h
        rw [h]
        by_contra hn
        rw [Reporter.directive_unarmed (by simpa using hn)] at hd
        cases hd
      refine ⟨run₂.unwithdrawn alive₂ hg, ?_⟩
      rintro t₃ t₄ y left rfl hy
      exact run₂.unheard alive₂ hg armed ha hy

/-- A start is refused for want of a registration, and before the next one is asked for the user leaves the window that
the reporter is about to switch to. -/
def lateReturn : List Turn := [
  .post (.control .startTracking none 0), .handle,
  .post (.control (.login ⟨"srv", "u", "p", "dev"⟩) none 1), .handle,
  .post (.notification (.snapshot [⟨1, true, [⟨7, "https://a.example", true⟩]⟩])), .handle,
  .post (.focus (.windowFocusChanged 1)), .handle,
  .work, .handle,
  .post (.focus (.windowFocusChanged (-1))), .handle,
  .post (.control .startTracking none 2), .handle,
  .work, .handle, .work]

/-- The window is left after its start was asked for, and settled when the answer is handled. -/
lemma lateReturn_run :
    let t := ((opened none).play lateReturn).2
    let s := ((opened none).play lateReturn).1
    Run (opened none) t s ∧ s.inbox = [.startAcked true (.window 1 1)] ∧
      (s.turn .handle).1.reporter.focus.state = .tracking 1 ∧
      (s.turn .handle).2.calls = [.switchUrl "https://a.example"] ∧
      ∃ x y, t = t.take 3 ++ x :: t.drop 4 ∧ .start (.window 1 1) ∈ x.calls ∧
        t.drop 4 = (t.drop 4).take 2 ++ y :: t.drop 7 ∧ y.event? = some (.windowFocusChanged (-1)) := by
  intro t s
  exact ⟨.play (by simp [lateReturn, Input.isAcknowledgment]), by decide, by decide, by decide, _, _, rfl, by decide, rfl,
    rfl⟩

/-- After a late return the reporter settles the window that was left: it did not hear of the departure, between a
refusal and the next request to start. -/
theorem departures_unheard_lateReturn :
    let t := ((opened none).play lateReturn).2
    let s := ((opened none).play lateReturn).1
    (s.turn .handle).2.calls ≠ [] ∧ s.reporter.Completes 1 (s.turn .handle).1.reporter (s.turn .handle).2.calls ∧
      (Trace.words ((t.drop 4).take 2)).getLast? = some .refused ∧ (Trace.words (t.drop 7)).getLast? = some .asked := by
  intro t s
  obtain ⟨run, waits, _, _, x, y, ht, hx, ht', hy⟩ := lateReturn_run
  have called : (s.turn .handle).2.calls ≠ [] := by decide
  obtain ⟨⟨_, _, ho, completes⟩, _, departures⟩ := departures_unheard (opened_fresh none) run (.handle waits) called
  cases ho
  exact ⟨called, completes, (departures _ _ x ht hx).2 _ _ y _ ht' hy⟩

/-- A window can be settled though the user has left it since the start was asked for. -/
theorem not_always_present : ¬ ∀ {s₀ t s success origin done s' window url}, Fresh s₀ → Run s₀ t s →
    Step s [.handled (.startAcked success origin) done] s' → s'.reporter.focus.state = .tracking window →
    done.calls = [.switchUrl url] →
    ∀ (t₁ t₂ : Trace) (x : Event), t = t₁ ++ x :: t₂ → .start origin ∈ x.calls →
      ∀ (t₃ t₄ : Trace) (y : Event) left, t₂ = t₃ ++ y :: t₄ → y.event? = some (.windowFocusChanged left) →
        left = window := by
  intro present
  obtain ⟨run, waits, focus, calls, x, y, ht, hx, ht', hy⟩ := lateReturn_run
  have left := present (opened_fresh none) run (.handle waits) focus calls _ _ x ht hx _ _ y _ ht' hy
  exact absurd left (by decide)

end Station

end FocusJournal
