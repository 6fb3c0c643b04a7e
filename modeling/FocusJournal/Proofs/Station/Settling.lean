import FocusJournal.Proofs.Station.Registration
import Mathlib.Algebra.Ring.Nat

/-!
# Settling

To settle is to run, without anything more being posted, until nothing is left to do: `settle_run`. Each turn takes an
input or a call out of the station and may put in what it leads to, which always weighs less, and the turns that settling
is given suffice for the weight of all that waits.
-/

namespace FocusJournal

/-- The number of turns that an input leads to at most, that of handling it included. -/
def Input.weight : Input → Nat
  | .startAcked _ _ => 2
  | .loginAcked _ _ _ => 1
  | _ => 4

/-- The number of turns that a call leads to at most, that of applying it included. -/
def EngineCall.weight : EngineCall → Nat
  | .start _ => 3
  | .login _ _ _ => 2
  | _ => 1

/-- No input leads to more than four turns. -/
lemma Input.weight_le (i : Input) : i.weight ≤ 4 := by cases i <;> simp [weight]

/-- An input with a focus event may lead to all four. -/
lemma Input.weight_of_event? {i : Input} {event : FocusEvent} (h : i.event? = some event) : i.weight = 4 := by
  cases i <;> first | rfl | cases h

/-- No call leads to more than three turns. -/
lemma EngineCall.weight_le (c : EngineCall) : c.weight ≤ 3 := by cases c <;> simp [weight]

/-- The calls of a reaction weigh less than the input. -/
lemma Reaction.weight_lt {r r' : Reporter} {i calls} (re : Reaction r i r' calls) :
    (calls.map EngineCall.weight).sum < i.weight := by
  cases re with
  | idle => cases i <;> exact Nat.succ_pos _
  | switch he _ | enter he _ | leave he _ =>
    rw [Input.weight_of_event? he]
    simp [EngineCall.weight]
  | _ => simp [EngineCall.weight, Input.weight]

/-- The acknowledgment of a call weighs less than the call. -/
lemma EngineCall.acknowledgment_weight_lt (c : EngineCall) (success : Bool) :
    ((c.acknowledgment success).map Input.weight).sum < c.weight := by
  cases c <;> simp [acknowledgment, weight, Input.weight]

namespace Station

/-- The answers that the reporter gives in an event. -/
def Event.replies : Event → List Answer
  | .handled _ done => done.answers
  | .applied _ _ => []

namespace Trace

/-- The answers that the reporter gave. -/
def replies (t : Trace) : List Answer := t.flatMap Event.replies

/-- The answers in a longer trace are those in its parts. -/
@[simp] lemma replies_append (t t' : Trace) : replies (t ++ t') = t.replies ++ t'.replies := List.flatMap_append

end Trace

/-- The number of turns that what waits leads to at most. -/
def weight (s : Station JournalEngine) : Nat :=
  (s.inbox.map Input.weight).sum + (s.engine.queue.map EngineCall.weight).sum

/-- A sum has at most as much as its length times the greatest it may add. -/
lemma sum_map_le {α : Type} {f : α → Nat} {n : Nat} (h : ∀ a, f a ≤ n) (as : List α) :
    (as.map f).sum ≤ n * as.length := by
  induction as with
  | nil => exact Nat.le_refl _
  | cons a as ih =>
    have := h a
    rw [List.map_cons, List.sum_cons, List.length_cons, Nat.mul_succ]
    omega

/-- There are turns enough for all that is left to do. -/
lemma weight_le_pendingTurns (s : Station JournalEngine) : s.weight ≤ s.pendingTurns :=
  Nat.add_le_add (sum_map_le Input.weight_le _) (sum_map_le EngineCall.weight_le _)

/-- Where nothing is left to do, the station is at rest. -/
lemma isQuiescent_of_weight {s : Station JournalEngine} (h : s.weight = 0) : s.isQuiescent = true := by
  obtain ⟨r, ⟨recorder, queue, alive⟩, inbox⟩ := s
  have input (i : Input) : 0 < i.weight := by cases i <;> exact Nat.succ_pos _
  have call (c : EngineCall) : 0 < c.weight := by cases c <;> exact Nat.succ_pos _
  rw [weight, Nat.add_eq_zero_iff] at h
  cases inbox with
  | cons i _ =>
    have := input i
    have := h.1
    rw [List.map_cons, List.sum_cons] at this
    omega
  | nil =>
    cases queue with
    | cons c _ =>
      have := call c
      have := h.2
      rw [List.map_cons, List.sum_cons] at this
      omega
    | nil => rfl

/-- To handle an input lessens what is left to do. -/
lemma weight_handle {s : Station JournalEngine} {i rest} (alive : s.engine.alive = true) (hi : s.inbox = i :: rest) :
    (s.turn .handle).1.weight < s.weight := by
  have less := (s.deed i).reaction.weight_lt
  rw [turn_deed alive hi]
  simp only [weight, hi, List.map_append, List.map_cons, List.sum_append, List.sum_cons]
  change _ < i.weight at less
  omega

/-- To apply a call lessens what is left to do. -/
lemma weight_work {s : Station JournalEngine} {c rest} (hq : s.engine.queue = c :: rest) :
    (s.turn .work).1.weight < s.weight := by
  have less := c.acknowledgment_weight_lt (JournalEngine.apply s.engine.recorder c).2
  rw [turn_work hq]
  simp only [weight, hq, List.map_append, List.map_cons, List.sum_append, List.sum_cons]
  omega

/-- The inputs that did not come from the engine. -/
def outer (inputs : List Input) : List Input := inputs.filter fun i => !i.isAcknowledgment

/-- The inputs from outside of two lines are those of both. -/
lemma outer_append (is js : List Input) : outer (is ++ js) = outer is ++ outer js := List.filter_append ..

/-- An acknowledgment does not come from outside. -/
lemma outer_acknowledgment (c : EngineCall) (success : Bool) : outer (c.acknowledgment success) = [] := by
  cases c <;> rfl

/-- Settling is a run in which nothing is posted, and it comes to its end if it is given turns enough. -/
lemma settleWithin_run {s : Station JournalEngine} (alive : s.engine.alive = true) (n : Nat) :
    ∃ t, Run s t (settleWithin n s).1 ∧ t.replies = (settleWithin n s).2.answers ∧
      outer (t.inputs ++ (settleWithin n s).1.inbox) = outer s.inbox ∧
      (s.weight ≤ n → (settleWithin n s).1.isQuiescent = true) := by
  -- On the turns that are given: with each of them less is left to do, so that it stays within what they allow.
  induction n generalizing s with
  | zero => exact ⟨[], .refl, rfl, rfl, fun h => isQuiescent_of_weight (Nat.le_zero.1 h)⟩
  | succ n ih =>
    rw [settleWithin]
    cases hi : s.inbox with
    | cons i rest =>
      have st : Step s _ (s.turn .handle).1 := .handle hi
      have less := weight_handle alive hi
      have eq := turn_deed alive hi
      obtain ⟨t, run, answers, outside, quiet⟩ := ih (st.alive alive)
      refine ⟨_, .head st run, ?_, ?_, fun h => quiet (by omega)⟩
      · rw [Trace.replies_append, answers]
        simp [Trace.replies, Event.replies]
      · simp only [List.isEmpty_cons, Bool.false_eq_true, if_false]
        rw [Trace.inputs_append, List.append_assoc, outer_append, outside, eq]
        exact (outer_append [i] rest).symm
    | nil =>
      cases hq : s.engine.queue with
      | nil =>
        have done : s.work? = none := by simp [work?, JournalEngine.work?, hq]
        simp only [done, List.isEmpty_nil, if_true]
        exact ⟨[], .refl, rfl, by rw [hi]; rfl, fun _ => isQuiescent_iff.2 ⟨hi, hq⟩⟩
      | cons c rest =>
        have st : Step s _ (s.turn .work).1 := .work hq
        have less := weight_work hq
        have next : s.work? = some (s.turn .work).1 := by simp [turn, work?, JournalEngine.work?, hq]
        obtain ⟨t, run, answers, outside, quiet⟩ := ih (st.alive alive)
        simp only [next, List.isEmpty_nil, if_true]
        refine ⟨_, .head st run, by rw [Trace.replies_append, answers]; rfl, ?_, fun h => quiet (by omega)⟩
        rw [Trace.inputs_append, List.append_assoc, outer_append, outside, turn_work hq, hi, List.nil_append,
          outer_acknowledgment]
        rfl

/-- To settle is to run, without anything more being posted, until nothing is left to do. -/
theorem settle_run {s : Station JournalEngine} (alive : s.engine.alive = true) :
    ∃ t, Run s t s.settle.1 ∧ t.replies = s.settle.2.answers ∧ outer t.inputs = outer s.inbox ∧
      s.settle.1.isQuiescent = true := by
  obtain ⟨t, run, answers, outside, quiet⟩ := settleWithin_run alive s.pendingTurns
  have rest : s.settle.1.isQuiescent = true := quiet s.weight_le_pendingTurns
  refine ⟨t, run, answers, ?_, rest⟩
  rw [← settle, (isQuiescent_iff.1 rest).1, List.append_nil] at outside
  exact outside

end Station

end FocusJournal
