import FocusJournal.Proofs.Station.Ledger
import Mathlib.Tactic.ByContra

/-!
# Standing requests

Whether a request to start stands, where nothing waits. It should stand if it was the last request and the engine has
granted it, and it does unless the refusal of an earlier one was handled since: an answer does not say which request of
the user's it is for, so a refusal that comes late ends whatever request then stands. That this is the only exception is
what `standing_iff` says.

The engine answers starts in the order in which they are asked for, so that the answer to a start is found by counting
those asked for before.
-/

namespace FocusJournal

/-- The start that an input answers, with the answer. -/
def Input.answer? : Input → Option (StartOrigin × Bool)
  | .startAcked success origin => some (origin, success)
  | _ => none

namespace Station

/-- The start that the engine answers in an event, with the answer. -/
def Event.answer? : Event → Option (StartOrigin × Bool)
  | .applied (.start origin) success => some (origin, success)
  | _ => none

namespace Trace

/-- What the engine answered. -/
def answers (t : Trace) : List (StartOrigin × Bool) := t.filterMap Event.answer?

/-- What the reporter has heard of that. -/
def heard (t : Trace) : List (StartOrigin × Bool) := t.inputs.filterMap Input.answer?

variable (t t' : Trace)

/-- The answers of a longer trace are those of its parts. -/
@[simp] lemma answers_append : answers (t ++ t') = t.answers ++ t'.answers := List.filterMap_append

/-- What the reporter hears in a longer trace is what it hears in its parts. -/
@[simp] lemma heard_append : heard (t ++ t') = t.heard ++ t'.heard := by simp [heard]

/-- The reporter is told of the starts whose answers it hears. -/
lemma heard_map_fst : t.heard.map Prod.fst = t.told := by
  rw [heard, told, List.map_filterMap]
  congr 1
  funext i
  cases i <;> rfl

/-- To hear the refusal of a start that the user asked for is a word on the wish. -/
lemma refused_of_heard {t : Trace} (h : (.user, false) ∈ t.heard) : .refused ∈ t.words := by
  obtain ⟨i, hi, hia⟩ := List.mem_filterMap.1 h
  obtain ⟨x, hx, hxi⟩ := List.mem_filterMap.1 hi
  refine List.mem_filterMap.2 ⟨x, hx, ?_⟩
  cases i with
  | startAcked success origin =>
    cases hia
    rw [Event.word?, hxi]
    rfl
  | _ => cases hia

/-- The refusal in an event is heard after the answers to as many starts as were told before. -/
lemma heard_of_refused {y : Event} (hy : y.word? = some .refused) :
    (heard (t ++ y :: t'))[t.told.length]? = some (.user, false) := by
  cases y with
  | applied => cases hy
  | handled i done =>
    obtain rfl : i = .startAcked false .user := Input.eq_of_refused hy
    rw [heard_append, ← heard_map_fst, List.length_map, List.getElem?_append_right (Nat.le_refl _), Nat.sub_self]
    rfl

end Trace

/-- What a step answers joins what waits to be heard, and what is heard leaves at the front. -/
lemma Step.answers_eq {s e s'} (st : Step s e s') (alive : s.engine.alive = true) :
    s.inbox.filterMap Input.answer? ++ e.answers = e.heard ++ s'.inbox.filterMap Input.answer? := by
  cases st with
  | @post i hi =>
    have ha : i.answer? = none := by
      cases i with
      | startAcked => cases hi
      | _ => rfl
    simp [Trace.answers, Trace.heard, Trace.inputs, turn, Station.post, ha]
  | @handle i rest hi =>
    obtain ⟨r, calls, answers, _, eq⟩ := turn_handle alive hi
    rw [eq, hi]
    cases ha : i.answer? <;> simp [Trace.answers, Trace.heard, Trace.inputs, Event.answer?, Event.input?, ha]
  | @work c rest hq =>
    rw [turn_work hq]
    cases c <;> simp [Trace.answers, Trace.heard, Trace.inputs, Event.answer?, Event.input?,
      EngineCall.acknowledgment, Input.answer?, List.filterMap_cons]
  | disk => simp [Trace.answers, Trace.heard, Trace.inputs, onDisk]

namespace Run

variable {s₀ s : Station JournalEngine} {t : Trace}

/-- What the engine answers is heard in order, or it still waits. -/
lemma answers_eq (run : Run s₀ t s) (alive : s₀.engine.alive = true) :
    s₀.inbox.filterMap Input.answer? ++ t.answers = t.heard ++ s.inbox.filterMap Input.answer? := by
  induction run with
  | refl => simp [Trace.answers, Trace.heard, Trace.inputs]
  | step run st ih =>
    rw [Trace.answers_append, Trace.heard_append, ← List.append_assoc, ih, List.append_assoc, List.append_assoc,
      st.answers_eq (run.alive alive)]

/-- Where nothing waits, all that was answered has been heard, and it answers all that was asked for. -/
lemma heard_all (run : Run s₀ t s) (f : Fresh s₀) (hs : s.isQuiescent = true) :
    t.heard = t.answers ∧ t.heard.map Prod.fst = t.begun := by
  constructor
  · have ha := run.answers_eq f.alive
    rw [f.eq.1, (isQuiescent_iff.1 hs).1] at ha
    simpa using ha.symm
  · have hb := run.begun_eq f.alive
    rw [f.inFlight, inFlight_of_isQuiescent hs] at hb
    rw [Trace.heard_map_fst]
    simpa using hb.symm

/-- The user's starts are asked for by requests. -/
lemma asked_of_begun (run : Run s₀ t s) (alive : s₀.engine.alive = true) (hb : .user ∈ t.begun) :
    .asked ∈ t.words := by
  obtain ⟨x, hx, hcx⟩ := Trace.mem_begun.1 hb
  obtain ⟨t₁, t₂, rfl⟩ := List.append_of_mem hx
  cases x with
  | applied => cases hcx
  | handled i done =>
    obtain ⟨s₁, s₂, _, re, _⟩ := run.split_handled alive
    rcases re.of_start hcx with ⟨_, hw⟩ | ⟨_, _, _, _, ho⟩
    · exact List.mem_filterMap.2 ⟨_, hx, hw⟩
    · cases ho

end Run

/-- The user's last request is one to start, with these events before and after it. -/
structure LastRequest (t t₁ : Trace) (x : Event) (t₂ : Trace) : Prop where
  cut : t = t₁ ++ x :: t₂
  asked : x.word? = some .asked
  /-- There is no other request since. -/
  since : ∀ w ∈ t₂.words, w = .refused

namespace LastRequest

variable {s₀ s : Station JournalEngine} {t t₁ t₂ : Trace} {x : Event}

/-- A last request asks for a start of the user's, and there is none since. -/
lemma begun_eq (l : LastRequest t t₁ x t₂) (run : Run s₀ t s) (alive : s₀.engine.alive = true) :
    t.begun = t₁.begun ++ .user :: t₂.begun ∧ .user ∉ t₂.begun := by
  obtain ⟨rfl, hx, since⟩ := l
  cases x with
  | applied => cases hx
  | handled i done =>
    obtain ⟨s₁, s₂, _, re, run₂, alive₂⟩ := run.split_handled alive
    have hc : done.calls = [.start .user] := re.of_word hx
    refine ⟨by simp [Trace.begun, Trace.calls, Event.calls, hc, EngineCall.begun?], ?_⟩
    intro hb
    cases since _ (run₂.asked_of_begun alive₂ hb)

/-- No answer is heard in a last request. -/
lemma heard_eq (l : LastRequest t t₁ x t₂) : t.heard = t₁.heard ++ t₂.heard := by
  obtain ⟨rfl, hx, _⟩ := l
  have hn : Trace.heard [x] = [] := by
    cases x with
    | applied => cases hx
    | handled i done =>
      cases i with
      | startAcked success origin => cases success <;> cases origin <;> cases hx
      | _ => rfl
  rw [← List.singleton_append, Trace.heard_append, Trace.heard_append, hn, List.nil_append]

/-- A last request to start stands as long as no refusal is handled. -/
lemma armed_iff (l : LastRequest t t₁ x t₂) (run : Run s₀ t s) (f : Fresh s₀) :
    s.reporter.armed = true ↔ t₂.words = [] := by
  obtain ⟨rfl, hx, since⟩ := l
  rw [(run.ledger f).armed, Word.arms_iff, Trace.words_append, Trace.words_cons, hx, List.getLast?_append,
    List.getLast?_append]
  cases hw : t₂.words.getLast? with
  | none => simp [List.getLast?_eq_none_iff.1 hw]
  | some w =>
    have hm := List.mem_of_getLast? hw
    obtain rfl := since w hm
    simp [List.ne_nil_of_mem hm]

/-- Where nothing waits, the answer to the start of a last request has been heard since. -/
lemma answered (l : LastRequest t t₁ x t₂) (run : Run s₀ t s) (f : Fresh s₀) (hs : s.isQuiescent = true) :
    ∃ success, t.answers[t₁.begun.length]? = some (.user, success) ∧ (.user, success) ∈ t₂.heard := by
  obtain ⟨hall, hfst⟩ := run.heard_all f hs
  have hb : t.begun[t₁.begun.length]? = some .user := by
    rw [(l.begun_eq run f.alive).1, List.getElem?_append_right (Nat.le_refl _), Nat.sub_self]
    rfl
  rw [← hfst, List.getElem?_map, Option.map_eq_some_iff] at hb
  obtain ⟨⟨_, success⟩, ha, rfl⟩ := hb
  refine ⟨success, hall ▸ ha, ?_⟩
  -- What was heard before the request answers starts that were asked for before.
  have before : t₁.heard.length ≤ t₁.begun.length := by
    obtain ⟨s₁, _, run₁, _, _⟩ := (l.cut ▸ run).split
    have h := (run₁.told_prefix f).length_le
    rwa [← Trace.heard_map_fst, List.length_map] at h
  rw [l.heard_eq, List.getElem?_append_right before] at ha
  exact List.mem_of_getElem? ha

/-- Where nothing waits, each refusal since a last request answers its start or one that was asked for before. -/
lemma told_le {t₃ y} (l : LastRequest t t₁ x (t₂ ++ y :: t₃)) (run : Run s₀ t s) (f : Fresh s₀)
    (hs : s.isQuiescent = true) (hy : y.word? = some .refused) :
    t.answers[(Trace.told (t₁ ++ x :: t₂)).length]? = some (.user, false) ∧
      (Trace.told (t₁ ++ x :: t₂)).length ≤ t₁.begun.length := by
  obtain ⟨hall, hfst⟩ := run.heard_all f hs
  have ha : t.heard[(Trace.told (t₁ ++ x :: t₂)).length]? = some (.user, false) := by
    rw [l.cut, ← List.cons_append, ← List.append_assoc]
    exact Trace.heard_of_refused _ _ hy
  refine ⟨hall ▸ ha, ?_⟩
  -- A start of the user's that came later would have been asked for by another request.
  by_contra hn
  obtain ⟨hb, last⟩ := l.begun_eq run f.alive
  have hu : t.begun[(Trace.told (t₁ ++ x :: t₂)).length]? = some .user := by
    rw [← hfst, List.getElem?_map, ha]
    rfl
  rw [hb, List.getElem?_append_right (by omega)] at hu
  obtain ⟨k, hk⟩ := Nat.exists_eq_add_of_lt (Nat.lt_of_not_le hn)
  rw [hk, show t₁.begun.length + k + 1 - t₁.begun.length = k + 1 by omega, List.getElem?_cons_succ] at hu
  exact last (List.mem_of_getElem? hu)

end LastRequest

/-- The user's last request is one to start, and the engine has granted that very start. -/
def Granted (t : Trace) : Prop :=
  ∃ t₁ x t₂, LastRequest t t₁ x t₂ ∧ t.answers[t₁.begun.length]? = some (.user, true)

/-- The user's last request is one to start, and the refusal of an earlier one was handled since: it answers a start
that was asked for before. -/
def Overruled (t : Trace) : Prop :=
  ∃ (t₁ t₂ t₃ : Trace) (x y : Event), LastRequest t t₁ x (t₂ ++ y :: t₃) ∧ y.word? = some .refused ∧
    (Trace.told (t₁ ++ x :: t₂)).length < t₁.begun.length

/-- Where nothing waits, the user counts as wanting to be tracked if the engine has granted the start of the last
request, unless the refusal of an earlier start was handled since. -/
theorem standing_iff {s₀ t s} (f : Fresh s₀) (run : Run s₀ t s) (hs : s.isQuiescent = true) :
    s.reporter.armed = true ↔ Granted t ∧ ¬ Overruled t := by
  constructor
  · intro ha
    have hw : t.words.getLast? = some .asked := Word.arms_iff.1 ((run.ledger f).armed ▸ ha)
    constructor
    · obtain ⟨t₁, t₂, x, cut, hx, hw₂⟩ := Trace.exists_last_word hw
      have l : LastRequest t t₁ x t₂ := ⟨cut, hx, by simp [hw₂]⟩
      obtain ⟨success, answer, heard⟩ := l.answered run f hs
      cases success with
      | true => exact ⟨t₁, x, t₂, l, answer⟩
      | false =>
        have refused := Trace.refused_of_heard heard
        rw [hw₂] at refused
        cases refused
    · rintro ⟨t₁, t₂, t₃, x, y, l, hy, _⟩
      have hw₂ := (l.armed_iff run f).1 ha
      simp [hy] at hw₂
  · rintro ⟨⟨t₁, x, t₂, l, answer⟩, unruled⟩
    rw [l.armed_iff run f]
    by_contra hne
    obtain ⟨w, hw⟩ := List.exists_mem_of_ne_nil _ hne
    obtain rfl := l.since w hw
    obtain ⟨y, hy, hyw⟩ := List.mem_filterMap.1 hw
    obtain ⟨t₂, t₃, rfl⟩ := List.append_of_mem hy
    -- The refusal is of another start than the last, hence of an earlier one.
    obtain ⟨refusal, le⟩ := l.told_le run f hs hyw
    rcases Nat.lt_or_eq_of_le le with lt | eq
    · exact unruled ⟨t₁, t₂, t₃, x, y, l, hyw, lt⟩
    · rw [eq, answer] at refusal
      cases refusal

/-- The user asks to be tracked, registers a device, and asks again before the first refusal is handled. -/
def askedTwice : List Turn := [
  .post (.control .startTracking none 0), .handle,
  .post (.control (.login ⟨"srv", "u", "p", "dev"⟩) none 0), .handle,
  .post (.control .startTracking none 0), .handle,
  .work, .work, .work, .handle, .handle, .handle]

/-- The second of two requests is granted, and the refusal of the first is handled after it. -/
lemma askedTwice_run :
    let t := ((opened none).play askedTwice).2
    let s := ((opened none).play askedTwice).1
    Run (opened none) t s ∧ s.isQuiescent = true ∧ Granted t ∧ s.reporter.armed = false := by
  intro t s
  have l : LastRequest t (t.take 2) _ (t.drop 3) := ⟨rfl, by decide, by decide⟩
  exact ⟨.play (by simp [askedTwice, Input.isAcknowledgment]), by decide, ⟨_, _, _, l, by decide⟩, by decide⟩

/-- After two requests the second of which was granted, the refusal of the first has overruled it. -/
theorem standing_iff_askedTwice :
    let t := ((opened none).play askedTwice).2
    Granted t ∧ Overruled t := by
  intro t
  obtain ⟨run, hs, granted, unarmed⟩ := askedTwice_run
  refine ⟨granted, ?_⟩
  by_contra unruled
  rw [(standing_iff (opened_fresh none) run hs).2 ⟨granted, unruled⟩] at unarmed
  cases unarmed

/-- A request can have been granted and not stand. -/
theorem not_always_standing : ¬ ∀ {s₀ t s}, Fresh s₀ → Run s₀ t s → s.isQuiescent = true →
    (s.reporter.armed = true ↔ Granted t) := by
  intro standing
  obtain ⟨run, hs, granted, unarmed⟩ := askedTwice_run
  rw [(standing (opened_fresh none) run hs).2 granted] at unarmed
  cases unarmed

end Station

end FocusJournal
