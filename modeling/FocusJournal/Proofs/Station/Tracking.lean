import FocusJournal.Proofs.Station.Run

/-!
# The tracking state is true

While the reporter thinks that it tracks a window, the user wants to be tracked, the flag is set, and the engine records
and will still do so when all waiting calls have been applied: `tracking_holds`.

The invariant is `Sound`. Its heart is what it says of the start of the current switch, the one whose generation is the
present one: behind it in the queue there is no stop, and once its success is in the inbox the engine records, no stop
waits, and no refusal comes behind it. Every stop is asked for together with a step to the next generation, or when the
current start has been answered; either way no start in flight is the current one afterwards.
-/

namespace FocusJournal

/-- The recorder after calls, each applied with the disk as it is then. -/
def Recorder.applyAll (r : Recorder) : List (Disk × EngineCall) → Recorder
  | [] => r
  | (d, c) :: rest => (JournalEngine.apply (r.onDisk d) c).1.applyAll rest

/-- The input is the success of the start of a switch. -/
def Input.Completes (i : Input) (generation : Nat) : Prop := ∃ window, i = .startAcked true (.window window generation)

/-- The call is the start of a switch. -/
def EngineCall.Begins (c : EngineCall) (generation : Nat) : Prop := ∃ window, c = .start (.window window generation)

/-- The generation of the switch whose start a call asks for. -/
def EngineCall.generation? (c : EngineCall) : Option Nat := c.begun?.bind StartOrigin.generation?

/-- A call is the start of the switch of its generation. -/
lemma EngineCall.generation?_eq_some {c : EngineCall} {g} : c.generation? = some g ↔ c.Begins g := by
  constructor
  · intro h
    cases c with
    | start origin =>
      cases origin with
      | user => cases h
      | window window generation =>
        cases h
        exact ⟨window, rfl⟩
    | _ => cases h
  · rintro ⟨window, rfl⟩
    rfl

namespace JournalEngine

/-- A recorder that records goes on unless it is told to stop. -/
lemma apply_keeps {r : Recorder} {c} (ht : r.tracking = true) (hc : c ≠ .stop) :
    (apply r c).1.tracking = true ∧ ∀ i ∈ c.acknowledgment (apply r c).2, i.verdict? ≠ some false := by
  cases c with
  | start origin =>
    rw [apply, Recorder.start_of_tracking ht]
    exact ⟨ht, by simp [EngineCall.acknowledgment, Input.verdict?]⟩
  | stop => exact absurd rfl hc
  | switchUrl url => exact ⟨by simpa [apply] using ht, by simp [EngineCall.acknowledgment]⟩
  | login credentials id asker =>
    exact ⟨by simpa [apply] using ht, by simp [EngineCall.acknowledgment, Input.verdict?]⟩

end JournalEngine

/-- A recorder that records goes on through calls without a stop, whatever becomes of the disk. -/
lemma Recorder.applyAll_keeps {r : Recorder} {line : List (Disk × EngineCall)} (ht : r.tracking = true)
    (hs : .stop ∉ line.map Prod.snd) : (r.applyAll line).tracking = true := by
  induction line generalizing r with
  | nil => exact ht
  | cons x rest ih =>
    obtain ⟨d, c⟩ := x
    simp only [List.map_cons, List.mem_cons, not_or] at hs
    exact ih (JournalEngine.apply_keeps (r := r.onDisk d) ht (Ne.symm hs.1)).1 hs.2

namespace Station

/-- The generations of the switches whose starts are in flight. -/
def generations (s : Station JournalEngine) : List Nat := s.inFlight.filterMap StartOrigin.generation?

/-- The engine records, and no call that waits ends that. -/
def Secure (e : JournalEngine) : Prop := e.recorder.tracking = true ∧ .stop ∉ e.queue

/-- The worker's step keeps it so and posts no refusal. -/
lemma Secure.work {e : JournalEngine} {c rest} (se : Secure e) (hq : e.queue = c :: rest) :
    Secure ⟨(JournalEngine.apply e.recorder c).1, rest, e.alive⟩ ∧
      ∀ i ∈ c.acknowledgment (JournalEngine.apply e.recorder c).2, i.verdict? ≠ some false := by
  obtain ⟨ht, hs⟩ := se
  rw [hq, List.mem_cons, not_or] at hs
  obtain ⟨ht', hv⟩ := JournalEngine.apply_keeps ht (Ne.symm hs.1)
  exact ⟨⟨ht', hs.2⟩, hv⟩

/-- More calls without a stop keep it so. -/
lemma Secure.append {e : JournalEngine} {calls} (se : Secure e) (hc : .stop ∉ calls) :
    Secure ⟨e.recorder, e.queue ++ calls, e.alive⟩ :=
  ⟨se.1, by simp [se.2, hc]⟩

/-- The invariant of runs. -/
structure Sound (s : Station JournalEngine) : Prop where
  alive : s.engine.alive = true
  /-- No two starts in flight belong to one switch, and none to a switch yet to come. -/
  distinct : s.generations.Nodup
  bounded : ∀ g ∈ s.generations, g ≤ s.reporter.focus.generation
  /-- Behind the current start no stop waits. -/
  queue : s.engine.queue.Pairwise fun c c' => c.Begins s.reporter.focus.generation → c' ≠ .stop
  /-- Behind the success of the current start no refusal waits. -/
  inbox : s.inbox.Pairwise fun i i' => i.Completes s.reporter.focus.generation → i'.verdict? ≠ some false
  completed : ∀ i ∈ s.inbox, i.Completes s.reporter.focus.generation → Secure s.engine
  tracking : ∀ window, s.reporter.focus.state = .tracking window →
    s.reporter.armed = true ∧ s.reporter.enabled = true ∧ Secure s.engine ∧ ∀ i ∈ s.inbox, i.verdict? ≠ some false

/-- A current start that waits in the queue is in flight. -/
lemma mem_generations_of_begins {s : Station JournalEngine} {c g} (hc : c ∈ s.engine.queue) (hb : c.Begins g) :
    g ∈ s.generations := by
  obtain ⟨window, rfl⟩ := hb
  refine List.mem_filterMap.2 ⟨.window window g, ?_, rfl⟩
  exact List.mem_append_right _ (List.mem_filterMap.2 ⟨_, hc, rfl⟩)

/-- A current start whose success waits in the inbox is in flight. -/
lemma mem_generations_of_completes {s : Station JournalEngine} {i g} (hi : i ∈ s.inbox) (hc : i.Completes g) :
    g ∈ s.generations := by
  obtain ⟨window, rfl⟩ := hc
  refine List.mem_filterMap.2 ⟨.window window g, ?_, rfl⟩
  exact List.mem_append_left _ (List.mem_filterMap.2 ⟨_, hi, rfl⟩)

namespace Sound

variable {s : Station JournalEngine} {i : Input} {rest : List Input} {r : Reporter} {calls : List EngineCall}

/-- A fresh station is sound. -/
lemma fresh (f : Fresh s) : Sound s := by
  obtain ⟨hi, _, _, hf, hq, ha, _⟩ := f.eq
  constructor <;> simp [generations, inFlight, hi, hf, hq, ha, Focus.initial]

/-- An input that is no acknowledgment changes nothing that matters. -/
lemma post (so : Sound s) (hi : i.isAcknowledgment = false) : Sound (s.turn (.post i)).1 := by
  have ht := Input.told?_of_posted hi
  have hv := Input.verdict?_of_posted hi
  have hc g : ¬ i.Completes g := by rintro ⟨_, rfl⟩; cases hi
  have hg : (s.turn (.post i)).1.generations = s.generations := by
    simp [generations, inFlight, turn, Station.post, ht]
  refine ⟨so.alive, hg ▸ so.distinct, hg ▸ so.bounded, so.queue, ?_, ?_, ?_⟩
  · refine List.pairwise_append.2 ⟨so.inbox, List.pairwise_singleton _ _, ?_⟩
    intro a _ b hb _
    simp [List.mem_singleton.1 hb, hv]
  · intro a ha hac
    rcases List.mem_append.1 ha with ha | ha
    · exact so.completed a ha hac
    · rw [List.mem_singleton.1 ha] at hac
      exact absurd hac (hc _)
  · intro window hw
    obtain ⟨h₁, h₂, h₃, h₄⟩ := so.tracking window hw
    refine ⟨h₁, h₂, h₃, ?_⟩
    intro a ha
    rcases List.mem_append.1 ha with ha | ha
    · exact h₄ a ha
    · simp [List.mem_singleton.1 ha, hv]

/-- The worker's step keeps a station sound. -/
lemma work {c rest} (so : Sound s) (hq : s.engine.queue = c :: rest) : Sound (s.turn .work).1 := by
  have hg : (s.turn .work).1.generations = s.generations := by
    have := (Step.work hq).begun_eq so.alive
    simp only [Trace.begun, Trace.told, Trace.calls, Trace.inputs, Event.calls, Event.input?, List.flatMap_cons,
      List.flatMap_nil, List.filterMap_cons, List.filterMap_nil, List.append_nil, List.nil_append] at this
    rw [generations, generations, this]
  rw [turn_work hq] at hg ⊢
  have hqs := so.queue
  rw [hq, List.pairwise_cons] at hqs
  refine ⟨so.alive, hg ▸ so.distinct, hg ▸ so.bounded, hqs.2, ?_, ?_, ?_⟩
  · refine List.pairwise_append.2 ⟨so.inbox, ?_, ?_⟩
    · cases c <;> simp [EngineCall.acknowledgment]
    · intro a ha b hb hac
      exact ((so.completed a ha hac).work hq).2 b hb
  · intro a ha hac
    rcases List.mem_append.1 ha with ha | ha
    · exact ((so.completed a ha hac).work hq).1
    -- The success of the current start, just posted: the worker has opened the span or found it open.
    · obtain ⟨window, rfl⟩ := hac
      cases c with
      | start origin =>
        simp only [EngineCall.acknowledgment, List.mem_singleton, Input.startAcked.injEq] at ha
        obtain ⟨hs, rfl⟩ := ha
        exact ⟨by simpa [JournalEngine.apply] using hs.symm, fun hm => hqs.1 _ hm ⟨window, rfl⟩ rfl⟩
      | _ => simp [EngineCall.acknowledgment] at ha
  · intro window hw
    obtain ⟨h₁, h₂, h₃, h₄⟩ := so.tracking window hw
    refine ⟨h₁, h₂, (h₃.work hq).1, ?_⟩
    intro a ha
    rcases List.mem_append.1 ha with ha | ha
    · exact h₄ a ha
    · exact (h₃.work hq).2 a ha

/-- The disk has no part in it. -/
lemma disk (so : Sound s) (d : Disk) : Sound (s.onDisk d) :=
  ⟨so.alive, so.distinct, so.bounded, so.queue, so.inbox, so.completed, so.tracking⟩

/-- The generations in flight without the oldest input. -/
lemma generations_eq (hi : s.inbox = i :: rest) :
    s.generations = (i.told?.bind StartOrigin.generation?).toList ++ generations ⟨s.reporter, s.engine, rest⟩ := by
  cases ht : i.told? with
  | none => simp [generations, inFlight, hi, ht]
  | some origin =>
    cases hg : origin.generation? <;> simp [generations, inFlight, hi, ht, hg]

/-- The generations in flight after more calls. -/
lemma generations_append :
    generations ⟨r, ⟨s.engine.recorder, s.engine.queue ++ calls, s.engine.alive⟩, rest⟩ =
      generations ⟨s.reporter, s.engine, rest⟩ ++ calls.filterMap EngineCall.generation? := by
  have hc : (calls.filterMap EngineCall.begun?).filterMap StartOrigin.generation? =
      calls.filterMap EngineCall.generation? := List.filterMap_filterMap
  simp [generations, inFlight, ← hc]

/-- The generations in flight stay distinct and bounded without the oldest input. -/
lemma others (so : Sound s) (hi : s.inbox = i :: rest) :
    (generations ⟨s.reporter, s.engine, rest⟩).Nodup ∧
      ∀ g ∈ generations ⟨s.reporter, s.engine, rest⟩, g ≤ s.reporter.focus.generation := by
  have hs := generations_eq hi
  exact ⟨(List.nodup_append.1 (hs ▸ so.distinct)).2.1, fun g hm => so.bounded g (hs ▸ List.mem_append_right _ hm)⟩

/-- The reporter handles an input within the current generation and asks for no stop and no switch to a window. -/
lemma steady (so : Sound s) (hi : s.inbox = i :: rest) (hf : r.focus = s.reporter.focus)
    (hs : .stop ∉ calls) (hb : ∀ c ∈ calls, ∀ g, ¬ c.Begins g)
    (ht : ∀ window, s.reporter.focus.state = .tracking window → r.armed = true ∧ r.enabled = true) :
    Sound ⟨r, ⟨s.engine.recorder, s.engine.queue ++ calls, s.engine.alive⟩, rest⟩ := by
  have hg : generations ⟨r, ⟨s.engine.recorder, s.engine.queue ++ calls, s.engine.alive⟩, rest⟩ =
      generations ⟨s.reporter, s.engine, rest⟩ := by
    have hc : calls.filterMap EngineCall.generation? = [] := by
      refine List.filterMap_eq_nil_iff.2 fun c hc => Option.eq_none_iff_forall_ne_some.2 fun g hg => ?_
      exact hb c hc g (EngineCall.generation?_eq_some.1 hg)
    rw [generations_append, hc, List.append_nil]
  obtain ⟨hd, hle⟩ := so.others hi
  have hin := so.inbox
  rw [hi, List.pairwise_cons] at hin
  refine ⟨so.alive, ?_, ?_, ?_, ?_, ?_, ?_⟩
  · rw [hg]
    exact hd
  · rw [hg, hf]
    exact hle
  · rw [hf]
    refine List.pairwise_append.2 ⟨so.queue, ?_, ?_⟩
    · exact List.pairwise_of_forall_mem_list fun c hc _ _ hbg => absurd hbg (hb c hc _)
    · rintro c _ c' hc' _ rfl
      exact hs hc'
  · rw [hf]
    exact hin.2
  · intro a ha hac
    rw [hf] at hac
    exact (so.completed a (hi ▸ .tail _ ha) hac).append hs
  · intro window hw
    rw [hf] at hw
    obtain ⟨_, _, h₃, h₄⟩ := so.tracking window hw
    exact ⟨(ht window hw).1, (ht window hw).2, h₃.append hs, fun a ha => h₄ a (hi ▸ .tail _ ha)⟩

/-- The reporter handles an input such that no start in flight is the current one any more, unless it asks for it now.
-/
lemma renewed {c : EngineCall} (so : Sound s) (hi : s.inbox = i :: rest)
    (hn : r.focus.generation ∉ generations ⟨s.reporter, s.engine, rest⟩)
    (hle : s.reporter.focus.generation ≤ r.focus.generation) (hc : ∀ g, c.Begins g → g = r.focus.generation)
    (ht : ∀ window, r.focus.state = .tracking window →
      r.armed = true ∧ r.enabled = true ∧ Secure s.engine ∧ c ≠ .stop ∧ ∀ a ∈ rest, a.verdict? ≠ some false) :
    Sound ⟨r, ⟨s.engine.recorder, s.engine.queue ++ [c], s.engine.alive⟩, rest⟩ := by
  have hg : generations ⟨r, ⟨s.engine.recorder, s.engine.queue ++ [c], s.engine.alive⟩, rest⟩ =
      generations ⟨s.reporter, s.engine, rest⟩ ++ c.generation?.toList := by
    rw [generations_append]
    cases h : c.generation? <;> simp [h]
  have hcg : ∀ g ∈ c.generation?.toList, g = r.focus.generation := by
    intro g hm
    exact hc g (EngineCall.generation?_eq_some.1 (Option.mem_toList.1 hm))
  obtain ⟨hd, hle'⟩ := so.others hi
  refine ⟨so.alive, ?_, ?_, ?_, ?_, ?_, ?_⟩
  · rw [hg]
    refine List.nodup_append.2 ⟨hd, ?_, ?_⟩
    · cases c.generation? <;> simp
    · rintro g hm _ hm' rfl
      exact hn (hcg g hm' ▸ hm)
  · intro g hm
    rw [hg] at hm
    rcases List.mem_append.1 hm with hm | hm
    · exact Nat.le_trans (hle' g hm) hle
    · exact Nat.le_of_eq (hcg g hm)
  · refine List.pairwise_append.2 ⟨?_, List.pairwise_singleton _ _, ?_⟩
    · refine List.pairwise_of_forall_mem_list fun c' hc' _ _ hb => absurd ?_ hn
      exact mem_generations_of_begins (s := ⟨s.reporter, s.engine, rest⟩) hc' hb
    · intro c' hc' _ _ hb
      exact absurd (mem_generations_of_begins (s := ⟨s.reporter, s.engine, rest⟩) hc' hb) hn
  · refine List.pairwise_of_forall_mem_list fun a ha _ _ hac => absurd ?_ hn
    exact mem_generations_of_completes (s := ⟨s.reporter, s.engine, rest⟩) ha hac
  · intro a ha hac
    exact absurd (mem_generations_of_completes (s := ⟨s.reporter, s.engine, rest⟩) ha hac) hn
  · intro window hw
    obtain ⟨h₁, h₂, h₃, h₄, h₅⟩ := ht window hw
    exact ⟨h₁, h₂, h₃.append (by simpa using h₄.symm), h₅⟩

/-- The reporter keeps a station sound, whatever it handles. -/
lemma handle (so : Sound s) (hi : s.inbox = i :: rest) : Sound (s.turn .handle).1 := by
  obtain ⟨r, calls, answers, re, eq⟩ := turn_handle so.alive hi
  rw [eq]
  have held window (hw : s.reporter.focus.state = .tracking window) :
      s.reporter.armed = true ∧ s.reporter.enabled = true :=
    ⟨(so.tracking window hw).1, (so.tracking window hw).2.1⟩
  have unrefused window (hw : s.reporter.focus.state = .tracking window) : i.verdict? ≠ some false :=
    (so.tracking window hw).2.2.2 i (hi ▸ .head _)
  -- A step to the next generation leaves all starts in flight behind.
  have next : s.reporter.focus.generation + 1 ∉ generations ⟨s.reporter, s.engine, rest⟩ := by
    intro hm
    have := (so.others hi).2 _ hm
    omega
  -- The current start is answered only once.
  have answered {window} (h : i = .startAcked true (.window window s.reporter.focus.generation)) :
      s.reporter.focus.generation ∉ generations ⟨s.reporter, s.engine, rest⟩ := by
    have := so.distinct
    rw [generations_eq hi, h] at this
    exact (List.nodup_cons.1 this).1
  cases re with
  | idle _ _ _ => exact so.steady hi (by simp) nofun nofun (by simpa using held)
  | loggedIn => exact so.steady hi rfl nofun nofun held
  | login => exact so.steady hi rfl (by simp) (by simp [EngineCall.Begins]) held
  | switch _ _ => exact so.steady hi (by simp) (by simp) (by simp [EngineCall.Begins]) (by simpa using held)
  | enter _ _ =>
    refine so.renewed hi next (Nat.le_succ _) ?_ ?_
    · rintro g ⟨_, h⟩
      cases h
      rfl
    · intro window hw
      obtain ⟨h₁, h₂, h₃, h₄⟩ := so.tracking window hw
      exact ⟨by simpa using h₁, by simpa using h₂, h₃, nofun, fun a ha => h₄ a (hi ▸ .tail _ ha)⟩
  | leave _ _ => exact so.renewed hi next (Nat.le_succ _) nofun nofun
  | ask => exact so.steady hi rfl (by simp) (by simp [EngineCall.Begins]) fun w hw => ⟨rfl, (held w hw).2⟩
  | withdraw => exact so.renewed hi next (Nat.le_succ _) nofun nofun
  | refused => exact so.steady hi rfl nofun nofun fun w hw => absurd rfl (unrefused w hw)
  | failed => exact so.steady hi rfl nofun nofun fun w hw => absurd rfl (unrefused w hw)
  | granted _ => exact so.steady hi rfl nofun nofun fun w hw => ⟨(held w hw).1, rfl⟩
  | @settled _ window _ hw _ =>
    obtain ⟨ha, ho⟩ := Reporter.settling?_eq_some hw
    subst ho
    have secure : Secure s.engine := by
      apply so.completed (.startAcked true (.window window s.reporter.focus.generation))
      · rw [hi]
        exact .head _
      · exact ⟨window, rfl⟩
    have inbox := so.inbox
    rw [hi] at inbox
    refine so.renewed hi (answered rfl) (Nat.le_refl _) nofun fun _ _ => ⟨ha, rfl, secure, nofun, ?_⟩
    intro a hm
    exact List.rel_of_pairwise_cons inbox hm ⟨_, rfl⟩
  | anomalous hw _ =>
    obtain ⟨_, ho⟩ := Reporter.settling?_eq_some hw
    subst ho
    exact so.renewed hi (answered rfl) (Nat.le_refl _) nofun nofun

end Sound

/-- A step keeps a station sound. -/
lemma Step.sound {s e s'} (st : Step s e s') (so : Sound s) : Sound s' := by
  cases st with
  | post hi => exact so.post hi
  | handle hi => exact so.handle hi
  | work hq => exact so.work hq
  | disk => exact so.disk _

/-- A run keeps a station sound. -/
lemma Run.sound {s₀ t s} (run : Run s₀ t s) (so : Sound s₀) : Sound s := by
  induction run with
  | refl => exact so
  | step _ st ih => exact st.sound ih

/-- Whatever the order of requests, notifications, ticks and acknowledgments, a reporter that thinks that it tracks a
window is right: the user wants it, the flag is set, and the engine records once the waiting calls are applied, even if
writes fail meanwhile. -/
theorem tracking_holds {s : Station JournalEngine} {window} (reach : Reachable s)
    (hw : s.reporter.focus.state = .tracking window) :
    s.reporter.armed = true ∧ s.reporter.enabled = true ∧
      ∀ line : List (Disk × EngineCall), line.map Prod.snd = s.engine.queue →
        (s.engine.recorder.applyAll line).tracking = true := by
  obtain ⟨s₀, t, fresh, run⟩ := reach
  obtain ⟨h₁, h₂, h₃, _⟩ := (run.sound (.fresh fresh)).tracking window hw
  refine ⟨h₁, h₂, ?_⟩
  intro line hl
  exact Recorder.applyAll_keeps h₃.1 (hl ▸ h₃.2)

/-- The user asks to be tracked, and a tick finds the focus on a window. -/
def oneSwitch : List Turn := [
  .post (.control .startTracking none 0), .handle,
  .post (.notification (.snapshot [⟨1, true, [⟨7, "https://a.example", true⟩]⟩])), .handle,
  .post (.focus .pollTick), .handle,
  .work, .work, .handle, .handle]

/-- One switch leads to a state of which `tracking_holds` speaks, and there the call to note the URL still waits. -/
theorem tracking_holds_oneSwitch :
    ((opened (some device)).play oneSwitch).1.reporter.focus.state = .tracking 1 ∧
      ((opened (some device)).play oneSwitch).1.reporter.enabled = true ∧
      (((opened (some device)).play oneSwitch).1.engine.recorder.applyAll
        [(⟨false, false⟩, .switchUrl "https://a.example")]).tracking = true := by
  have reach : Reachable ((opened (some device)).play oneSwitch).1 :=
    ⟨_, _, opened_fresh _, .play (by simp [oneSwitch, Input.isAcknowledgment])⟩
  have ht : ((opened (some device)).play oneSwitch).1.reporter.focus.state = .tracking 1 := by decide
  obtain ⟨_, he, hl⟩ := tracking_holds reach ht
  exact ⟨ht, he, hl _ (by decide)⟩

end Station

end FocusJournal
