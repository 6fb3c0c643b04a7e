import FocusJournal.Proofs.Station.Consent
import FocusJournal.Proofs.Station.Ledger

/-!
# Stations at rest

What the flags are worth when nothing waits any more. A recording is always shown; otherwise each flag fails the user in
one case only.

* `recording_shown`: the flag is set while the engine records.
* `unwatched_iff`: the engine is left recording for a user who counts as not wanting to be tracked if the refusal of an
  earlier start is handled when a later one is already asked for, and that one succeeds (`LateRefusal`). No loss of the
  focus ends that recording.
* `outdated_iff`: the flag is left set with an engine that has stopped if the success of a start is handled after the
  stop that overtook it (`StopOvertook`).
-/

namespace FocusJournal

/-- An input after which no window has the focus, so that a reporter pauses if its user wants to be tracked. -/
def Reporter.LosesFocus (r : Reporter) (i : Input) : Prop :=
  ∃ event, i.event? = some event ∧ Directive.ofEvent true r.platform.reliability (r.look i).view event = .pause

namespace Reaction

variable {r r' : Reporter} {i : Input} {calls : List EngineCall}

/-- A reporter that loses the focus stops the engine if its user wants to be tracked. -/
lemma of_losesFocus (re : Reaction r i r' calls) (hl : r.LosesFocus i) : calls = if r.armed then [.stop] else [] := by
  obtain ⟨event, he, hp⟩ := hl
  rw [re.of_event he]
  cases ha : r.armed with
  | true =>
    rw [Reporter.directive, Reporter.look_armed, Reporter.look_platform, ha, hp]
    rfl
  | false =>
    rw [Reporter.directive_unarmed (by simpa using ha)]
    rfl

end Reaction

namespace Station

variable {s₀ s : Station JournalEngine} {t : Trace}

/-- Where nothing waits, a loss of the focus ends the recording if the user wants to be tracked. -/
lemma settle_losesFocus {i} (alive : s.engine.alive = true) (hs : s.isQuiescent = true)
    (hl : s.reporter.LosesFocus i) :
    (s.turn (.post i)).1.settle.1.engine.recorder.tracking = (s.engine.recorder.tracking && !s.reporter.armed) := by
  obtain ⟨hi, hq⟩ := isQuiescent_iff.1 hs
  have hi' : (s.turn (.post i)).1.inbox = [i] := by simp [turn, Station.post, hi]
  have hq' : (s.turn (.post i)).1.engine.queue = [] := hq
  obtain ⟨r, calls, answers, re, eq⟩ := turn_handle (s := (s.turn (.post i)).1) alive hi'
  have hc := re.of_losesFocus hl
  have hn : (s.turn (.post i)).1.pendingTurns = 4 := by simp [pendingTurns, hi', hq']
  rw [settle, hn, settleWithin, hi', eq, hq', hc]
  cases ha : (s.turn (.post i)).1.reporter.armed with
  | true =>
    have ha' : s.reporter.armed = true := ha
    simp [settleWithin, Station.work?, JournalEngine.work?, JournalEngine.apply, EngineCall.acknowledgment, ha']
  | false =>
    have ha' : s.reporter.armed = false := ha
    simp [settleWithin, Station.work?, JournalEngine.work?, ha', turn, Station.post]

/-- A run leads to no start and no stop while the user does not want to be tracked and says nothing. -/
lemma Run.marks_of_unarmed (run : Run s₀ t s) (alive : s₀.engine.alive = true) (ha : s₀.reporter.armed = false)
    (hi : .asked ∉ t.words) (hi' : .withdrawn ∉ t.words) : s.reporter.armed = false ∧ t.marks = [] := by
  have silent : ∀ w ∈ t.words, w ≠ .asked ∧ w ≠ .withdrawn := by
    rintro w hw
    exact ⟨fun h => hi (h ▸ hw), fun h => hi' (h ▸ hw)⟩
  obtain ⟨ha', hc⟩ := run.unarmed (P := fun c => c.mark? = none) alive ha silent fun re ha hw => by
    obtain ⟨ha', _, hc⟩ := re.unasked ha (fun h => (hw _ h).1 rfl) (fun h => (hw _ h).2 rfl)
    refine ⟨ha', ?_⟩
    intro c hm
    obtain ⟨credentials, id, asker, rfl⟩ := hc c hm
    rfl
  exact ⟨ha', List.filterMap_eq_nil_iff.2 hc⟩

/-- A run leads to no start while the user does not want to be tracked and does not ask for it. -/
lemma Run.begun_of_unarmed (run : Run s₀ t s) (alive : s₀.engine.alive = true) (ha : s₀.reporter.armed = false)
    (hi : .asked ∉ t.words) : t.begun = [] := by
  have silent : ∀ w ∈ t.words, w ≠ .asked := fun w hw h => hi (h ▸ hw)
  obtain ⟨_, hc⟩ := run.unarmed (P := fun c => c.begun? = none) alive ha silent fun re ha hw =>
    re.unbegun ha fun h => hw _ h rfl
  exact List.filterMap_eq_nil_iff.2 hc

/-- After the last word, if the user then does not want to be tracked, a run leads to no start and no stop. -/
lemma Run.last_word {t₁ t₂ : Trace} {i done w} (run : Run s₀ (t₁ ++ .handled i done :: t₂) s) (f : Fresh s₀)
    (hw : i.word? = some w) (ha : w.arms = false) (hw₂ : t₂.words = []) :
    (∃ r r', Reaction r i r' done.calls) ∧ s.reporter.armed = false ∧ t₂.marks = [] := by
  obtain ⟨s₁, s₂, _, re, run₂, alive₂⟩ := run.split_handled f.alive
  have ha' : s₂.reporter.armed = false := by
    have hr := re.armed_eq
    rw [hw] at hr
    exact hr.trans ha
  exact ⟨⟨_, _, re⟩, run₂.marks_of_unarmed alive₂ ha' (by simp [hw₂]) (by simp [hw₂])⟩

/-- If the user does not count as wanting to be tracked, though the engine was last asked to start, then the last word
is a refusal, and the start was asked for before that was handled. -/
lemma Run.refused_of_started (run : Run s₀ t s) (f : Fresh s₀) (ha : s.reporter.armed = false)
    (hm : t.marks.getLast? = some .start) :
    ∃ (t₁ t₂ : Trace) (done : Outcome), t = t₁ ++ .handled (.startAcked false .user) done :: t₂ ∧
      t₁.marks.getLast? = some .start ∧ t₂.words = [] := by
  rw [(run.ledger f).armed] at ha
  cases hw : t.words.getLast? with
  | none =>
    have hw' : t.words = [] := List.getLast?_eq_none_iff.1 hw
    rw [(run.marks_of_unarmed f.alive f.unarmed (by simp [hw']) (by simp [hw'])).2] at hm
    cases hm
  | some w =>
    have arms : w.arms = false := by simpa [hw] using ha
    obtain ⟨t₁, t₂, x, rfl, hx, hw₂⟩ := Trace.exists_last_word hw
    cases x with
    | applied c success => cases hx
    | handled i done =>
      obtain ⟨⟨r, r', re⟩, _, hm₂⟩ := run.last_word f hx arms hw₂
      have hc : done.calls = w.calls := re.of_word hx
      rw [Trace.marks_append, Trace.marks_cons, hm₂, Event.calls, hc] at hm
      cases w with
      | asked => cases arms
      | withdrawn => simp [Word.calls, EngineCall.mark?] at hm
      | refused =>
        have hi : i = .startAcked false .user := Input.eq_of_refused hx
        subst hi
        exact ⟨t₁, t₂, done, rfl, by simpa [Word.calls] using hm, hw₂⟩

/-- The refusal of a start that the user asked for is the last word, but the engine was asked to start once more before
it was handled, and has granted that. -/
def LateRefusal (t : Trace) : Prop :=
  ∃ (t₁ t₂ : Trace) (done : Outcome), t = t₁ ++ .handled (.startAcked false .user) done :: t₂ ∧
    t₁.marks.getLast? = some .start ∧ t₂.words = [] ∧ t₂.verdicts.getLast? = some true

/-- Where nothing waits, the engine records for a user who counts as not wanting to be tracked after a late refusal and
in no other case. A loss of the focus then ends no recording but one that the user wants. -/
theorem unwatched_iff (f : Fresh s₀) (run : Run s₀ t s) (hs : s.isQuiescent = true) :
    (s.engine.recorder.tracking = true ∧ s.reporter.armed = false ↔ LateRefusal t) ∧
      ∀ i, s.reporter.LosesFocus i →
        (s.turn (.post i)).1.settle.1.engine.recorder.tracking =
          (s.engine.recorder.tracking && !s.reporter.armed) := by
  refine ⟨⟨?_, ?_⟩, fun i hl => settle_losesFocus (run.alive f.alive) hs hl⟩
  · rintro ⟨ht, ha⟩
    obtain ⟨hm, hv⟩ := (run.recording_iff f hs).1 ht
    obtain ⟨t₁, t₂, done, rfl, hm₁, hw₂⟩ := run.refused_of_started f ha hm
    refine ⟨t₁, t₂, done, rfl, hm₁, hw₂, ?_⟩
    -- The last verdict is not the refusal itself, since it is a success.
    refine getD_false_iff.1 ?_
    simpa [Event.verdict?, Event.input?, Input.verdict?, List.getLast?_cons] using hv
  · rintro ⟨t₁, t₂, done, rfl, hm₁, hw₂, hv₂⟩
    obtain ⟨⟨r, r', re⟩, ha, hm₂⟩ := run.last_word f (w := .refused) rfl rfl hw₂
    have hc : done.calls = [] := re.of_word (w := .refused) rfl
    refine ⟨(run.recording_iff f hs).2 ⟨?_, ?_⟩, ha⟩
    · simp [Event.calls, hc, hm₂, hm₁]
    · simp [Event.verdict?, Event.input?, Input.verdict?, List.getLast?_cons, hv₂]

/-- The user asks to be tracked before a device is registered, and the focus moves to a window after that, but before
the first refusal is handled. -/
def hastyStart : List Turn := [
  .post (.control .startTracking none 0), .handle,
  .post (.control (.login ⟨"srv", "u", "p", "dev"⟩) none 0), .handle,
  .post (.focus (.windowFocusChanged 1)), .handle,
  .work, .work, .work, .handle, .handle, .handle]

/-- A hasty start leaves the engine recording through any loss of the focus, for a user who counts as not wanting it. -/
theorem unwatched_iff_hastyStart :
    let s := ((opened none).play hastyStart).1
    s.isQuiescent = true ∧ LateRefusal ((opened none).play hastyStart).2 ∧
      (s.turn (.post (.focus (.windowFocusChanged (-1))))).1.settle.1.engine.recorder.tracking = true := by
  intro s
  have run : Run (opened none) ((opened none).play hastyStart).2 s :=
    .play (by simp [hastyStart, Input.isAcknowledgment])
  have hs : s.isQuiescent = true := by decide
  obtain ⟨late, loss⟩ := unwatched_iff (opened_fresh none) run hs
  refine ⟨hs, late.1 ⟨by decide, by decide⟩, ?_⟩
  rw [loss _ ⟨_, rfl, by decide⟩]
  decide

/-- The engine can be left recording for a user who counts as not wanting to be tracked. -/
theorem not_always_watched : ¬ ∀ s : Station JournalEngine, Reachable s → s.isQuiescent = true →
    s.engine.recorder.tracking = true → s.reporter.armed = true := by
  intro watched
  have reach : Reachable ((opened none).play hastyStart).1 :=
    ⟨_, _, opened_fresh none, .play (by simp [hastyStart, Input.isAcknowledgment])⟩
  exact absurd (watched _ reach (by decide) (by decide)) (by decide)

/-- If the engine was last asked to start, then the answer to that has been heard since, where nothing waits. -/
lemma Run.answered_of_started (run : Run s₀ t s) (f : Fresh s₀) (hs : s.isQuiescent = true)
    (hm : t.marks.getLast? = some .start) :
    ∃ (t₁ t₂ : Trace) (x : Event), t = t₁ ++ x :: t₂ ∧ .stop ∉ x.calls ∧ t₂.marks = [] ∧ t₂.verdicts ≠ [] := by
  obtain ⟨t₁, t₂, x, rfl, hx, hm₂⟩ := Trace.exists_last_mark hm
  obtain ⟨c, hc, hcm⟩ := List.mem_filterMap.1 (List.mem_of_getLast? hx)
  obtain ⟨s₁, s₂, run₁, st, run₂⟩ := run.split
  have alive := run₁.alive f.alive
  cases x with
  | applied => cases hc
  | handled i done =>
    obtain ⟨r, rest, _, re, rfl⟩ := st.handled alive
    have only := re.single hc
    refine ⟨t₁, t₂, _, rfl, ?_, hm₂, ?_⟩
    · rw [Event.calls, only, List.mem_singleton]
      rintro rfl
      cases hcm
    -- The start is in flight when it is asked for, and at the end nothing is.
    · intro hv
      have hb := run₂.begun_eq (st.alive alive)
      rw [Trace.told_of_verdicts hv, Trace.begun_of_marks hm₂, inFlight_of_isQuiescent hs, List.append_nil] at hb
      cases c with
      | start origin => simp [inFlight, only, EngineCall.begun?] at hb
      | _ => cases hcm

/-- Where nothing waits, a recording is shown: if the engine records, then the flag is set, and whoever asks whether the
user is tracked is told so. -/
theorem recording_shown (reach : Reachable s) (hs : s.isQuiescent = true)
    (ht : s.engine.recorder.tracking = true) :
    s.reporter.enabled = true ∧
      ∀ id asker, (s.process (.control .getTracking id asker)).2.answers = [⟨asker, .truth id true⟩] := by
  obtain ⟨s₀, t, f, run⟩ := reach
  obtain ⟨hm, hv⟩ := (run.recording_iff f hs).1 ht
  obtain ⟨t₁, t₂, x, rfl, hx, hm₂, hv₂⟩ := run.answered_of_started f hs hm
  -- Of what became of the flag, the last is the last verdict.
  have he : s.reporter.enabled = true := by
    obtain ⟨v, hlast⟩ := Option.ne_none_iff_exists'.1 (mt List.getLast?_eq_none_iff.1 hv₂)
    rw [(run.ledger f).enabled, Trace.flags_append, Trace.flags_cons, Trace.flags_of_unmarked hm₂]
    rw [Trace.verdicts_append, Trace.verdicts_cons] at hv
    simp only [List.getLast?_append, hlast, Option.some_or] at hv ⊢
    exact Option.some.inj hv
  refine ⟨he, fun id asker => ?_⟩
  rw [← he]
  rfl

/-- The user asks to be tracked, and the focus has left all windows and come back before the engine answers. -/
def thereAndBack : List Turn := [
  .post (.control .startTracking none 0), .handle,
  .post (.notification (.snapshot [⟨1, true, [⟨7, "https://a.example", true⟩]⟩])), .handle,
  .post (.focus (.windowFocusChanged (-1))), .handle,
  .post (.focus (.windowFocusChanged 1)), .work, .work, .handle, .handle, .work, .handle, .work]

/-- A recording that was paused and taken up again while answers were on their way is shown. -/
theorem recording_shown_thereAndBack :
    let s := ((opened (some device)).play thereAndBack).1
    s.isQuiescent = true ∧ s.engine.recorder.tracking = true ∧ s.reporter.enabled = true := by
  intro s
  have reach : Reachable s := ⟨_, _, opened_fresh _, .play (by simp [thereAndBack, Input.isAcknowledgment])⟩
  have hs : s.isQuiescent = true := by decide
  have ht : s.engine.recorder.tracking = true := by decide
  exact ⟨hs, ht, (recording_shown reach hs ht).1⟩

/-- The engine was last asked to stop, but the success of a start was handled after that. -/
def StopOvertook (t : Trace) : Prop :=
  ∃ t₁ t₂ : Trace, t = t₁ ++ t₂ ∧ t₁.marks.getLast? = some .stop ∧ t₂.marks = [] ∧ t₂.verdicts.getLast? = some true

/-- Where nothing waits, the flag is set though the engine does not record if a stop overtook the success of a start. -/
lemma Run.overtook_iff (run : Run s₀ t s) (f : Fresh s₀) (hs : s.isQuiescent = true) :
    s.reporter.enabled = true ∧ s.engine.recorder.tracking = false ↔ StopOvertook t := by
  have le := run.ledger f
  constructor
  · rintro ⟨he, ht⟩
    have hv : t.verdicts.getLast? = some true := Trace.verdicts_of_flags (getD_false_iff.1 (le.enabled ▸ he))
    have hm : t.marks.getLast? ≠ some .start := by
      intro hm
      rw [(run.recording_iff f hs).2 ⟨hm, hv⟩] at ht
      cases ht
    have hstop : t.marks.getLast? = some .stop := by
      cases hm' : t.marks.getLast? with
      -- What was heard of was asked for.
      | none =>
        have hb := run.begun_eq f.alive
        rw [Trace.begun_of_marks (List.getLast?_eq_none_iff.1 hm'), f.inFlight] at hb
        rw [Trace.verdicts_of_told (List.append_eq_nil_iff.1 hb.symm).1] at hv
        cases hv
      | some m =>
        rcases Trace.eq_of_mem_marks (List.mem_of_getLast? hm') with rfl | rfl
        · exact absurd hm' hm
        · rfl
    obtain ⟨t₁, t₂, x, rfl, hx, hm₂⟩ := Trace.exists_last_mark hstop
    obtain ⟨c, hc, hcm⟩ := List.mem_filterMap.1 (List.mem_of_getLast? hx)
    obtain rfl : c = .stop := by cases c <;> first | rfl | cases hcm
    rw [le.enabled_of_stop hc, Trace.flags_of_unmarked hm₂] at he
    refine ⟨t₁ ++ [x], t₂, by simp, ?_, hm₂, getD_false_iff.1 he⟩
    simp [Trace.marks_append, List.getLast?_append, hx]
  · rintro ⟨t₁, t₂, rfl, hm₁, hm₂, hv₂⟩
    constructor
    · rw [le.enabled, Trace.flags_append, Trace.flags_of_unmarked hm₂, List.getLast?_append, hv₂]
      rfl
    · rw [Bool.eq_false_iff]
      intro ht
      obtain ⟨hm, _⟩ := (run.recording_iff f hs).1 ht
      rw [Trace.marks_append, hm₂, List.append_nil, hm₁] at hm
      cases hm

/-- After a stop that the user asked for and no start since, the engine does not record where nothing waits. The starts
that were in flight at the stop are what is answered since, and their last verdict is what the flag shows. -/
lemma Run.rest_of_stop {s₁ s₂ id asker done} (run : Run s₂ t s) (alive : s₁.engine.alive = true)
    (st : Step s₁ [.handled (.control .stopTracking id asker) done] s₂) (hs : s.isQuiescent = true)
    (hw : .asked ∉ t.words) : s.engine.recorder.tracking = false ∧ t.told = s₁.inFlight := by
  have hu := st.hushed alive
  constructor
  · have hq := (isQuiescent_iff.1 hs).2
    obtain ⟨before, after, hq', _, _, ht, _⟩ := (hu.run run hw).waiting
    rw [hq] at hq'
    exact ht (List.append_eq_nil_iff.1 hq'.symm).1
  · have hb := run.begun_eq hu.alive
    rw [run.begun_of_unarmed hu.alive hu.unarmed hw, inFlight_of_isQuiescent hs, List.append_nil, List.append_nil] at hb
    obtain ⟨r, rest, hi₁, re, rfl⟩ := st.handled alive
    rw [← hb]
    simp [inFlight, hi₁, re.of_word rfl, Word.calls, List.filterMap_cons, Input.told?, EngineCall.begun?]

/-- Where nothing waits, the flag is set though the engine does not record if a stop overtook the success of a start,
and in no other case. After a stop that the user asked for and no request to start since, the engine does not record,
and the starts that were in flight at the stop are those that have been answered since; the flag is clear if there were
none, and shows the last verdict on them if there was no other request to stop. -/
theorem outdated_iff :
    (∀ {s₀ t s}, Fresh s₀ → Run s₀ t s → s.isQuiescent = true →
      (s.reporter.enabled = true ∧ s.engine.recorder.tracking = false ↔ StopOvertook t)) ∧
    ∀ {s₀ t₁ s₁ id asker done s₂ t₂ s}, Fresh s₀ → Run s₀ t₁ s₁ →
      Step s₁ [.handled (.control .stopTracking id asker) done] s₂ → Run s₂ t₂ s → s.isQuiescent = true →
      .asked ∉ t₂.words →
      s.engine.recorder.tracking = false ∧ t₂.told = s₁.inFlight ∧ (s₁.inFlight = [] → s.reporter.enabled = false) ∧
        (.withdrawn ∉ t₂.words → s.reporter.enabled = t₂.verdicts.getLast?.getD false) := by
  refine ⟨fun f run hs => run.overtook_iff f hs, ?_⟩
  intro s₀ t₁ s₁ id asker done s₂ t₂ s f run₁ st run₂ hs hw
  have alive := run₁.alive f.alive
  obtain ⟨ht, told⟩ := run₂.rest_of_stop alive st hs hw
  have le : Ledger (t₁ ++ .handled (.control .stopTracking id asker) done :: t₂) s := by
    have run := (run₁.step st).trans run₂
    rw [List.append_assoc] at run
    exact run.ledger f
  obtain ⟨r, rest, _, re, _⟩ := st.handled alive
  have he := le.enabled_of_stop (show .stop ∈ done.calls by simp [re.of_word rfl, Word.calls])
  refine ⟨ht, told, ?_, ?_⟩
  · intro hn
    rw [he, Bool.eq_false_iff]
    intro hf
    have hv := Trace.verdicts_of_flags (getD_false_iff.1 hf)
    rw [Trace.verdicts_of_told (told.trans hn)] at hv
    cases hv
  · intro hw'
    have hu := st.hushed alive
    rw [he, Trace.flags_of_unmarked (run₂.marks_of_unarmed hu.alive hu.unarmed hw hw').2]

/-- The user asks not to be tracked while the success of the start is on its way. -/
def quickStop : List Turn := [
  .post (.control .startTracking none 0), .handle,
  .post (.control .stopTracking none 0), .work]

/-- After a quick stop the flag shows the success of the start before it. -/
theorem outdated_iff_quickStop :
    let s₁ := ((opened (some device)).play quickStop).1
    let s₂ := (s₁.turn .handle).1
    let s := (s₂.play [.handle, .work]).1
    s₁.inFlight = [.user] ∧ s.engine.recorder.tracking = false ∧ s.reporter.enabled = true ∧
      StopOvertook ((opened (some device)).play (quickStop ++ [.handle, .handle, .work])).2 := by
  intro s₁ s₂ s
  have run₁ : Run (opened (some device)) _ s₁ := .play (by simp [quickStop, Input.isAcknowledgment])
  have run₂ : Run s₂ _ s := .play (by simp)
  have run : Run (opened (some device)) ((opened (some device)).play (quickStop ++ [.handle, .handle, .work])).2
      ((opened (some device)).play (quickStop ++ [.handle, .handle, .work])).1 :=
    .play (by simp [quickStop, Input.isAcknowledgment])
  obtain ⟨ht, _, _, he⟩ := outdated_iff.2 (opened_fresh _) run₁ (.handle rfl) run₂ (by decide) (by decide)
  refine ⟨by decide, ht, ?_, (outdated_iff.1 (opened_fresh _) run (by decide)).1 ⟨by decide, by decide⟩⟩
  rw [he (by decide)]
  decide

/-- The flag can be left set with an engine that has stopped. -/
theorem not_always_recording : ¬ ∀ s : Station JournalEngine, Reachable s → s.isQuiescent = true →
    s.reporter.enabled = true → s.engine.recorder.tracking = true := by
  intro recording
  have reach : Reachable ((opened (some device)).play (quickStop ++ [.handle, .handle, .work])).1 :=
    ⟨_, _, opened_fresh _, .play (by simp [quickStop, Input.isAcknowledgment])⟩
  exact absurd (recording _ reach (by decide) (by decide)) (by decide)

end Station

end FocusJournal
