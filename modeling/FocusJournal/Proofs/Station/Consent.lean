import FocusJournal.Proofs.Station.Run

/-!
# The consent gate

A reporter whose user does not want to be tracked asks the engine for nothing but logins, whatever it is told, until the
user says otherwise; and once the worker has applied the calls up to the stop that the user asked for, the journal gets
no more rows: `consent_gate`.

For the journal the calls that wait are cut in two: those up to the stop, and those behind it, among which there is no
start (`Hushed`). The worker's steps shorten the first part; when it is used up the span is closed.
-/

namespace FocusJournal

/-- A reporter whose user does not ask to be tracked asks for no start, even when a wish is withdrawn once more. -/
lemma Reaction.unbegun {r r' : Reporter} {i calls} (re : Reaction r i r' calls) (ha : r.armed = false)
    (hi : i.word? ≠ some .asked) : r'.armed = false ∧ ∀ c ∈ calls, c.begun? = none := by
  by_cases hw : i.word? = some .withdrawn
  · have armed := re.armed_eq
    rw [hw] at armed
    rw [re.of_word hw]
    exact ⟨armed, by simp [Word.calls, EngineCall.begun?]⟩
  · obtain ⟨armed, _, hc⟩ := re.unasked ha hi hw
    refine ⟨armed, ?_⟩
    intro c hm
    obtain ⟨credentials, id, asker, rfl⟩ := hc c hm
    rfl

namespace JournalEngine

/-- Without a start no span is opened. -/
lemma apply_untracked {r : Recorder} {c} (ht : r.tracking = false) (hc : c.begun? = none) :
    (apply r c).1.tracking = false ∧ (apply r c).1.journal.rows = r.journal.rows := by
  cases c with
  | start => cases hc
  | stop => simp [apply, Recorder.stop_of_not_tracking ht, ht]
  | switchUrl url => simp [apply, Recorder.switch_of_not_tracking ht, ht]
  | login credentials => simp [apply, ht]

end JournalEngine

namespace Station

/-- Nobody wants to be tracked, and the engine will stop with the given number of calls. -/
structure Hushed (n : Nat) (s : Station JournalEngine) : Prop where
  alive : s.engine.alive = true
  unarmed : s.reporter.armed = false
  waiting : ∃ before after, s.engine.queue = before ++ after ∧ before.length = n ∧ (∀ c ∈ after, c.begun? = none) ∧
    (before = [] → s.engine.recorder.tracking = false) ∧ ∀ c ∈ before.getLast?, c = .stop

namespace Hushed

variable {s : Station JournalEngine} {n : Nat}

/-- The reporter keeps a station hushed unless the user asks to be tracked. -/
lemma handle {i rest} (hu : Hushed n s) (hi : s.inbox = i :: rest) (hw : i.word? ≠ some .asked) :
    Hushed n (s.turn .handle).1 := by
  obtain ⟨r, calls, answers, re, eq⟩ := turn_handle hu.alive hi
  obtain ⟨armed, hc⟩ := re.unbegun hu.unarmed hw
  obtain ⟨before, after, hq, hn, ha, ht, hs⟩ := hu.waiting
  rw [eq]
  refine ⟨hu.alive, armed, before, after ++ calls, by simp [hq], hn, ?_, ht, hs⟩
  intro c hm
  rcases List.mem_append.1 hm with hm | hm
  · exact ha c hm
  · exact hc c hm

/-- The worker comes one call nearer to the stop. -/
lemma work {c rest} (hu : Hushed n s) (hq : s.engine.queue = c :: rest) : Hushed (n - 1) (s.turn .work).1 := by
  obtain ⟨before, after, hq', hn, ha, ht, hs⟩ := hu.waiting
  rw [hq] at hq'
  rw [turn_work hq]
  -- The call is one that comes after the stop, or it is one of those up to it.
  cases before with
  | nil =>
    obtain rfl : c :: rest = after := hq'
    obtain ⟨hc, hrest⟩ := List.forall_mem_cons.1 ha
    subst hn
    have ht' := (JournalEngine.apply_untracked (ht rfl) hc).1
    exact ⟨hu.alive, hu.unarmed, [], rest, rfl, rfl, hrest, fun _ => ht', nofun⟩
  | cons b before =>
    obtain ⟨rfl, rfl⟩ := List.cons.inj hq'
    subst hn
    refine ⟨hu.alive, hu.unarmed, before, after, rfl, by simp, ha, ?_, ?_⟩
    · rintro rfl
      obtain rfl : c = .stop := hs c rfl
      exact Recorder.stop_tracking _
    · intro d hd
      apply hs d
      cases before with
      | nil => cases hd
      | cons _ _ => exact hd

/-- A run without a start that the user asks for keeps a station hushed, and nearer to the stop by the calls applied. -/
lemma run {t s'} (hu : Hushed n s) (run : Run s t s') (hw : .asked ∉ t.words) : Hushed (n - t.applied.length) s' := by
  induction run with
  | refl => exact hu
  | @step t s₁ e s₂ run st ih =>
    rw [Trace.words_append, List.mem_append, not_or] at hw
    have hu₁ := ih hw.1
    rw [Trace.applied_append, List.length_append, ← Nat.sub_sub]
    cases st with
    | post _ => exact ⟨hu₁.alive, hu₁.unarmed, hu₁.waiting⟩
    | handle hi =>
      refine hu₁.handle hi fun h => hw.2 ?_
      simp [Trace.words, Event.word?, Event.input?, h]
    | work hq => exact hu₁.work hq
    | disk => exact ⟨hu₁.alive, hu₁.unarmed, hu₁.waiting⟩

/-- Once the engine has stopped, such a run writes no row. -/
lemma rows_eq {t s'} (hu : Hushed 0 s) (run : Run s t s') (hw : .asked ∉ t.words) :
    s'.engine.recorder.journal.rows = s.engine.recorder.journal.rows := by
  -- The part of the run before each step leaves the station hushed, and so the step opens no span.
  induction run with
  | refl => rfl
  | @step t s₁ e s₂ run st ih =>
    rw [Trace.words_append, List.mem_append, not_or] at hw
    rw [← ih hw.1]
    have hu₁ := hu.run run hw.1
    rw [Nat.zero_sub] at hu₁
    cases st with
    | post _ => rfl
    | handle hi =>
      obtain ⟨r, calls, answers, _, eq⟩ := turn_handle hu₁.alive hi
      rw [eq]
    | @work c rest hq =>
      obtain ⟨before, after, hq', hn, ha, ht, _⟩ := hu₁.waiting
      obtain rfl := List.eq_nil_of_length_eq_zero hn
      have hc : c ∈ after := by
        rw [List.nil_append] at hq'
        rw [← hq', hq]
        exact .head _
      rw [turn_work hq]
      exact (JournalEngine.apply_untracked (ht rfl) (ha c hc)).2
    | disk => rfl

end Hushed

/-- After the user has asked for a stop, the engine will stop with the calls that then wait. -/
lemma Step.hushed {s id asker done s'} (st : Step s [.handled (.control .stopTracking id asker) done] s')
    (alive : s.engine.alive = true) : Hushed s'.engine.queue.length s' := by
  obtain ⟨r, rest, _, re, rfl⟩ := st.handled alive
  rw [re.of_word rfl]
  exact ⟨alive, re.armed_eq, _, [], (List.append_nil _).symm, rfl, nofun, by simp [Word.calls], by simp [Word.calls]⟩

/-- A reporter whose user does not want to be tracked handles any inputs but requests to start and to stop without a
start, a stop or a switch asked of the engine, and its state stays as it is. Once the calls up to a stop that the user
asked for are applied, no row is written until a request to start is handled. -/
theorem consent_gate :
    (∀ (r : Reporter) (line : List (Bool × Input)), r.armed = false →
      (∀ x ∈ line, x.2.word? ≠ some .asked ∧ x.2.word? ≠ some .withdrawn) →
      (r.handleAll line).1.armed = false ∧ (r.handleAll line).1.focus = r.focus ∧
        ∀ c ∈ (r.handleAll line).2.filterMap Effect.call?, ∃ credentials id asker, c = .login credentials id asker) ∧
    ∀ {s₀ t₁ s₁ id asker done s₂ t₂ s₃ t₃ s₄}, Fresh s₀ → Run s₀ t₁ s₁ →
      Step s₁ [.handled (.control .stopTracking id asker) done] s₂ →
      Run s₂ t₂ s₃ → s₂.engine.queue.length ≤ t₂.applied.length → Run s₃ t₃ s₄ → .asked ∉ t₂.words ++ t₃.words →
      s₄.engine.recorder.journal.rows = s₃.engine.recorder.journal.rows := by
  refine ⟨fun r line ha hi => Reporter.handleAll_unasked ha hi, ?_⟩
  intro s₀ t₁ s₁ id asker done s₂ t₂ s₃ t₃ s₄ fresh run₁ st run₂ hn run₃ hw
  rw [List.mem_append, not_or] at hw
  have hu := (st.hushed (run₁.alive fresh.alive)).run run₂ hw.1
  rw [Nat.sub_eq_zero_of_le hn] at hu
  exact hu.rows_eq run₃ hw.2

/-- The user asks to be tracked, and then not to be. -/
def changeOfMind : List Turn := [
  .post (.control .startTracking none 0), .handle, .work, .handle,
  .post (.control .stopTracking none 0)]

/-- Late news of a start and of the focus move nothing, neither in a reporter just started nor after a stop. -/
theorem consent_gate_changeOfMind :
    let s₁ := ((opened (some device)).play changeOfMind).1
    let s₂ := (s₁.turn .handle).1
    let s₃ := (s₂.play [.work]).1
    let s₄ := (s₃.play [.post (.focus (.windowFocusChanged 1)), .handle]).1
    s₄.engine.recorder.journal.rows = s₃.engine.recorder.journal.rows ∧
      ((Reporter.initial ⟨"linux"⟩ true).handleAll [(false, .startAcked true (.window 1 1))]).1.armed = false := by
  intro s₁ s₂ s₃ s₄
  have run₁ : Run (opened (some device)) _ s₁ := .play (by simp [changeOfMind, Input.isAcknowledgment])
  have run₂ : Run s₂ _ s₃ := .play (by simp)
  have run₃ : Run s₃ _ s₄ := .play (by simp [Input.isAcknowledgment])
  refine ⟨?_, (consent_gate.1 _ _ rfl (by simp [Input.word?])).1⟩
  exact consent_gate.2 (opened_fresh _) run₁ (.handle rfl) run₂ (by decide) run₃ (by decide)

end Station

end FocusJournal
