import FocusJournal.Proofs.Station.Run

/-!
# The ledger of a run

What a run leaves behind can be told from its events alone. The user counts as wanting to be tracked as the last word
says. The flag is what the last event with a stop or a verdict made of it. And the engine records if the last start or
stop it was asked for is a start, and the last verdict a success: `Ledger` says so of any state of a run, with what
still waits in the two queues taken into account, and `Run.recording_iff` of a state where nothing waits.
-/

namespace FocusJournal

/-- A flag that is false by default is set if something set it. -/
lemma getD_false_iff {o : Option Bool} : o.getD false = true ↔ o = some true := by
  cases o <;> simp

namespace Station

/-- What an event makes of the flag. -/
def Event.flag? (x : Event) : Option Bool := if .stop ∈ x.calls then some false else x.verdict?

namespace Trace

/-- What the events make of the flag. -/
def flags (t : Trace) : List Bool := t.filterMap Event.flag?

/-- The flags of a longer trace are those of its parts. -/
@[simp] lemma flags_append (t t' : Trace) : flags (t ++ t') = t.flags ++ t'.flags := List.filterMap_append

/-- The first event may add to the flags that come later. -/
@[simp] lemma flags_cons (x : Event) (t : Trace) : flags (x :: t) = x.flag?.toList ++ t.flags := by
  cases h : x.flag? <;> simp [flags, h]

/-- While no stop is asked for, the flag is what the verdicts make of it. -/
lemma flags_of_unmarked {t : Trace} (hm : t.marks = []) : t.flags = t.verdicts := by
  induction t with
  | nil => rfl
  | cons x t ih =>
    rw [marks_cons, List.append_eq_nil_iff] at hm
    have hs : .stop ∉ x.calls := by
      intro hs
      have h := List.filterMap_eq_nil_iff.1 hm.1 _ hs
      cases h
    rw [flags_cons, verdicts_cons, ih hm.2, Event.flag?, if_neg hs]

/-- No verdict is heard where nothing is made of the flag. -/
lemma verdicts_of_unflagged {t : Trace} (hf : t.flags = []) : t.verdicts = [] := by
  refine List.filterMap_eq_nil_iff.2 fun x hx => ?_
  have h := List.filterMap_eq_nil_iff.1 hf x hx
  by_cases hs : .stop ∈ x.calls
  · rw [Event.flag?, if_pos hs] at h
    cases h
  · rwa [Event.flag?, if_neg hs] at h

/-- If an event set the flag and none changed it since, then the last verdict was a success. -/
lemma verdicts_of_flags {t : Trace} (h : t.flags.getLast? = some true) : t.verdicts.getLast? = some true := by
  induction t with
  | nil => cases h
  | cons x t ih =>
    rw [flags_cons, List.getLast?_append] at h
    rw [verdicts_cons, List.getLast?_append]
    cases hf : (flags t).getLast? with
    | some v =>
      rw [hf] at h
      rw [ih (hf.trans h)]
      rfl
    -- No later event has a stop or a verdict.
    | none =>
      have hv : verdicts t = [] := verdicts_of_unflagged (List.getLast?_eq_none_iff.1 hf)
      rw [hf] at h
      rw [hv]
      by_cases hs : .stop ∈ x.calls
      · simp [Event.flag?, hs] at h
      · simpa [Event.flag?, hs] using h

/-- The engine is asked for nothing but starts and stops. -/
lemma eq_of_mem_marks {t : Trace} {m} (hm : m ∈ t.marks) : m = .start ∨ m = .stop := by
  obtain ⟨c, _, hc⟩ := List.mem_filterMap.1 hm
  cases c with
  | start => exact .inl (Option.some.inj hc).symm
  | stop => exact .inr (Option.some.inj hc).symm
  | _ => cases hc

/-- No start is asked for where no start or stop is. -/
lemma begun_of_marks {t : Trace} (h : t.marks = []) : t.begun = [] := by
  refine List.filterMap_eq_nil_iff.2 fun c hc => ?_
  have hm := List.filterMap_eq_nil_iff.1 h c hc
  cases c with
  | start => cases hm
  | _ => rfl

/-- No verdict is heard where no start is answered. -/
lemma verdicts_of_told {t : Trace} (h : t.told = []) : t.verdicts = [] := by
  refine List.filterMap_eq_nil_iff.2 fun x hx => ?_
  cases x with
  | applied => rfl
  | handled i done =>
    have ht := List.filterMap_eq_nil_iff.1 h i (List.mem_filterMap.2 ⟨_, hx, rfl⟩)
    cases i with
    | startAcked => cases ht
    | _ => rfl

/-- No start is answered where no verdict is heard. -/
lemma told_of_verdicts {t : Trace} (h : t.verdicts = []) : t.told = [] := by
  refine List.filterMap_eq_nil_iff.2 fun i hi => ?_
  obtain ⟨x, hx, hxi⟩ := List.mem_filterMap.1 hi
  have hv : x.input?.bind Input.verdict? = none := List.filterMap_eq_nil_iff.1 h x hx
  rw [hxi] at hv
  cases i with
  | startAcked => cases hv
  | _ => rfl

/-- A trace can be cut at the last event of a kind. -/
lemma exists_last {p : Event → Prop} {t : Trace} (h : ∃ x ∈ t, p x) :
    ∃ (t₁ t₂ : Trace) (x : Event), t = t₁ ++ x :: t₂ ∧ p x ∧ ∀ y ∈ t₂, ¬ p y := by
  induction t with
  | nil =>
    obtain ⟨x, hx, _⟩ := h
    cases hx
  | cons y t ih =>
    by_cases ht : ∃ x ∈ t, p x
    · obtain ⟨t₁, t₂, x, rfl, hp, hn⟩ := ih ht
      exact ⟨y :: t₁, t₂, x, rfl, hp, hn⟩
    · obtain ⟨x, hx, hp⟩ := h
      have hn : ∀ z ∈ t, ¬ p z := fun z hz hpz => ht ⟨z, hz, hpz⟩
      rcases List.mem_cons.1 hx with rfl | hx
      · exact ⟨[], t, x, rfl, hp, hn⟩
      · exact absurd hp (hn x hx)

/-- A trace with a last word can be cut there. -/
lemma exists_last_word {t : Trace} {w} (h : t.words.getLast? = some w) :
    ∃ (t₁ t₂ : Trace) (x : Event), t = t₁ ++ x :: t₂ ∧ x.word? = some w ∧ t₂.words = [] := by
  obtain ⟨y, hy, hw⟩ := List.mem_filterMap.1 (List.mem_of_getLast? h)
  obtain ⟨t₁, t₂, x, rfl, hx, hn⟩ := exists_last (p := fun x => x.word?.isSome) ⟨y, hy, by simp [hw]⟩
  have hw₂ : t₂.words = [] := List.filterMap_eq_nil_iff.2 fun y hy => by simpa using hn y hy
  obtain ⟨v, hv⟩ := Option.isSome_iff_exists.1 hx
  rw [words_append, words_cons, hw₂, hv] at h
  refine ⟨t₁, t₂, x, rfl, ?_, hw₂⟩
  simpa [hv] using h

/-- A trace with a last start or stop can be cut there. -/
lemma exists_last_mark {t : Trace} {m} (h : t.marks.getLast? = some m) :
    ∃ (t₁ t₂ : Trace) (x : Event), t = t₁ ++ x :: t₂ ∧ (x.calls.filterMap EngineCall.mark?).getLast? = some m ∧
      t₂.marks = [] := by
  obtain ⟨c, hc, hm⟩ := List.mem_filterMap.1 (List.mem_of_getLast? h)
  obtain ⟨y, hy, hyc⟩ := List.mem_flatMap.1 hc
  have hne : y.calls.filterMap EngineCall.mark? ≠ [] := List.ne_nil_of_mem (List.mem_filterMap.2 ⟨c, hyc, hm⟩)
  obtain ⟨t₁, t₂, x, rfl, hx, hn⟩ := exists_last (p := fun x => x.calls.filterMap EngineCall.mark? ≠ []) ⟨y, hy, hne⟩
  have hm₂ : t₂.marks = [] := by
    simp only [marks, calls, List.filterMap_flatMap, List.flatMap_eq_nil_iff]
    exact fun y hy => Classical.not_not.1 (hn y hy)
  refine ⟨t₁, t₂, x, rfl, ?_, hm₂⟩
  rw [marks_append, marks_cons, hm₂, List.append_nil, List.getLast?_append, List.getLast?_eq_some_getLast hx] at h
  rw [List.getLast?_eq_some_getLast hx]
  exact h

end Trace

/-- Nothing is left to do where both queues are empty. -/
lemma isQuiescent_iff {s : Station JournalEngine} : s.isQuiescent = true ↔ s.inbox = [] ∧ s.engine.queue = [] := by
  simp [isQuiescent]

/-- Where nothing waits, no start is in flight. -/
lemma inFlight_of_isQuiescent {s : Station JournalEngine} (hs : s.isQuiescent = true) : s.inFlight = [] := by
  obtain ⟨hi, hq⟩ := isQuiescent_iff.1 hs
  simp [inFlight, hi, hq]

/-- What a state has to do with the events that led to it. -/
structure Ledger (t : Trace) (s : Station JournalEngine) : Prop where
  armed : s.reporter.armed = (t.words.getLast?.map Word.arms).getD false
  enabled : s.reporter.enabled = t.flags.getLast?.getD false
  /-- The starts and stops that are applied come before those that wait. -/
  tracking : ∃ applied, t.marks = applied ++ s.engine.queue.filterMap EngineCall.mark? ∧
    (s.engine.recorder.tracking = true ↔
      applied.getLast? = some .start ∧ (t.verdicts ++ s.inbox.filterMap Input.verdict?).getLast? = some true)

namespace Ledger

variable {t : Trace} {s : Station JournalEngine}

/-- Nothing is in the ledger of a fresh station. -/
lemma fresh (f : Fresh s) : Ledger [] s := by
  obtain ⟨hi, ha, he, _, hq, _, ht⟩ := f.eq
  exact ⟨ha, he, [], by simp [Trace.marks, Trace.calls, hq], by simp [ht]⟩

/-- The words of a step are entered with those before. -/
lemma armed_step {e s'} (le : Ledger t s) (alive : s.engine.alive = true) (st : Step s e s') :
    s'.reporter.armed = ((t ++ e).words.getLast?.map Word.arms).getD false := by
  rw [st.armed_eq alive, le.armed, Trace.words_append, List.getLast?_append]
  cases e.words.getLast? <;> rfl

/-- The reporter's part of the ledger. -/
lemma handle {i rest} (le : Ledger t s) (alive : s.engine.alive = true) (hi : s.inbox = i :: rest) :
    Ledger (t ++ [.handled i (s.turn .handle).2]) (s.turn .handle).1 := by
  have ha := le.armed_step alive (.handle hi)
  obtain ⟨r, calls, answers, re, eq⟩ := turn_handle alive hi
  rw [eq] at ha ⊢
  refine ⟨ha, ?_, ?_⟩
  · have he := re.enabled_eq
    by_cases hs : .stop ∈ calls
    · rw [if_pos hs] at he
      simpa [Trace.flags, Event.flag?, Event.calls, hs] using he
    · rw [if_neg hs] at he
      cases hv : i.verdict? with
      | none =>
        rw [hv] at he
        simpa [Trace.flags, Event.flag?, Event.calls, Event.verdict?, Event.input?, hs, hv] using he.trans le.enabled
      | some v =>
        rw [hv] at he
        simpa [Trace.flags, Event.flag?, Event.calls, Event.verdict?, Event.input?, hs, hv] using he
  · obtain ⟨applied, hm, ht⟩ := le.tracking
    have hv : (t ++ [Event.handled i ⟨answers, calls⟩]).verdicts ++ rest.filterMap Input.verdict? =
        t.verdicts ++ s.inbox.filterMap Input.verdict? := by
      cases hv : i.verdict? <;> simp [Trace.verdicts, Event.verdict?, Event.input?, hi, hv]
    refine ⟨applied, ?_, ?_⟩
    · rw [Trace.marks_append, hm, List.append_assoc, List.filterMap_append]
      simp [Trace.marks, Trace.calls, Event.calls]
    · rw [hv]
      exact ht

/-- The worker's part of the ledger. -/
lemma work {c rest} (le : Ledger t s) (alive : s.engine.alive = true) (hq : s.engine.queue = c :: rest) :
    Ledger (t ++ [.applied c (JournalEngine.apply s.engine.recorder c).2]) (s.turn .work).1 := by
  have ha := le.armed_step alive (.work hq)
  obtain ⟨applied, hm, ht⟩ := le.tracking
  rw [turn_work hq] at ha ⊢
  rw [hq] at hm
  have hmarks : (t ++ [Event.applied c (JournalEngine.apply s.engine.recorder c).2]).marks = t.marks := by
    rw [Trace.marks_append]
    exact List.append_nil _
  have hverdicts : (t ++ [Event.applied c (JournalEngine.apply s.engine.recorder c).2]).verdicts = t.verdicts := by
    rw [Trace.verdicts_append]
    exact List.append_nil _
  refine ⟨ha, ?_, ?_⟩
  · rw [Trace.flags_append]
    exact le.enabled.trans (by simp [Trace.flags, Event.flag?, Event.calls, Event.verdict?, Event.input?])
  · rw [hmarks, hverdicts, hm]
    cases c with
    | start origin =>
      refine ⟨applied ++ [.start], by simp [EngineCall.mark?], ?_⟩
      simp [JournalEngine.apply, EngineCall.acknowledgment, Input.verdict?, ← List.append_assoc]
    | stop =>
      refine ⟨applied ++ [.stop], by simp [EngineCall.mark?], ?_⟩
      simp [JournalEngine.apply]
    | switchUrl url =>
      refine ⟨applied, rfl, ?_⟩
      simpa [JournalEngine.apply, EngineCall.acknowledgment] using ht
    | login credentials id asker =>
      refine ⟨applied, rfl, ?_⟩
      simpa [JournalEngine.apply, EngineCall.acknowledgment, Input.verdict?] using ht

/-- After a stop the flag is what later events make of it. -/
lemma enabled_of_stop {t₁ t₂ : Trace} {x : Event} (le : Ledger (t₁ ++ x :: t₂) s) (hs : .stop ∈ x.calls) :
    s.reporter.enabled = t₂.flags.getLast?.getD false := by
  simpa [Event.flag?, hs, List.getLast?_cons] using le.enabled

/-- Every step is entered in the ledger. -/
lemma step {e s'} (le : Ledger t s) (alive : s.engine.alive = true) (st : Step s e s') : Ledger (t ++ e) s' := by
  cases st with
  | @post i hi =>
    have hv := Input.verdict?_of_posted hi
    rw [List.append_nil]
    refine ⟨le.armed, le.enabled, ?_⟩
    simpa [turn, Station.post, hv] using le.tracking
  | handle hi => exact le.handle alive hi
  | work hq => exact le.work alive hq
  | disk =>
    rw [List.append_nil]
    exact ⟨le.armed, le.enabled, le.tracking⟩

end Ledger

namespace Run

variable {s₀ s s' : Station JournalEngine} {t : Trace}

/-- Every run from a fresh station has its ledger. -/
lemma ledger (run : Run s₀ t s) (f : Fresh s₀) : Ledger t s := by
  induction run with
  | refl => exact .fresh f
  | step run st ih => exact ih.step (run.alive f.alive) st

/-- Where nothing waits, the engine records if it was last asked to start and a success was the last verdict. -/
theorem recording_iff (run : Run s₀ t s) (f : Fresh s₀) (hs : s.isQuiescent = true) :
    s.engine.recorder.tracking = true ↔ t.marks.getLast? = some .start ∧ t.verdicts.getLast? = some true := by
  obtain ⟨hi, hq⟩ := isQuiescent_iff.1 hs
  obtain ⟨applied, hm, ht⟩ := (run.ledger f).tracking
  rw [hi, List.filterMap_nil, List.append_nil] at ht
  rw [hq, List.filterMap_nil, List.append_nil] at hm
  rw [hm]
  exact ht

end Run

end Station

end FocusJournal
