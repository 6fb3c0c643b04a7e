import FocusJournal.Engine.Rehearsed
import FocusJournal.Proofs.Browser.Checked
import FocusJournal.Proofs.Station.Course

/-!
# Ticks

A tick asks where the focus is, and it is the view that knows. So a tick says nothing new: where it counts it comes to
the same as a notification that the focus moves to where it is, and on a platform with reliable notifications it comes
to nothing. `ticks_say_nothing` carries this over to whole courses with any engine: the ticks in it can be announced as
changes of focus, or left out.

The notification goes through the view as well, and must not change it. It does not because the view is grounded, and
stays so while all notifications are checked.
-/

namespace FocusJournal

namespace Reporter

variable {r : Reporter}

/-- Told or asked, where the focus is leads to the same. -/
lemma handle_focusNow (gr : r.view.Grounded) (hp : r.platform.name ≠ "mac") (recording : Bool) :
    r.handle recording (.notification (.windowFocusChanged r.view.focusNow)) = r.handle recording (.focus .pollTick) := by
  have view : r.view.observe (.windowFocusChanged r.view.focusNow) = r.view := gr.focus_focusNow
  -- A tick that counts asks the view for the window, a notification brings it along.
  have directive : r.directive (.windowFocusChanged r.view.focusNow) = r.directive .pollTick := by
    have polled : r.platform.reliability.needsPolling = true := by rw [Platform.reliability, if_neg hp]; rfl
    rw [Reporter.directive, Reporter.directive, Directive.ofEvent, Directive.ofEvent, polled, if_pos rfl]
    rw [BrowserView.focusNow]
    cases r.view.focusedWindow? <;> rfl
  rw [handle, view]
  simp only [FocusEvent.ofNotification?, handle, onFocus, directive]

/-- On a platform with reliable notifications nothing is asked. -/
lemma handle_pollTick (hp : r.platform.name = "mac") (recording : Bool) :
    r.handle recording (.focus .pollTick) = (r, []) := by
  have unpolled : r.platform.reliability.needsPolling = false := by rw [Platform.reliability, if_pos hp]; rfl
  have directive : r.directive .pollTick = .ignore := by
    rw [Reporter.directive, Directive.ofEvent, unpolled]
    cases r.armed <;> rfl
  rw [handle, onFocus, directive]

end Reporter

namespace Station

variable {ε : Type}

/-- Whether an act is to take a tick. -/
def Act.isTick : Act ε → Bool
  | .take i => i = .focus .pollTick
  | _ => false

/-- A tick is one act. -/
lemma Act.isTick_iff {a : Act ε} : a.isTick = true ↔ a = .take (.focus .pollTick) := by
  cases a <;> simp [isTick]

/-- The notifications of the course were checked. -/
def Course.Checked (h : Course ε) : Prop := ∀ n, .notification n ∈ h.inputs → n.check = .ok ()

/-- A course is checked moment by moment. -/
lemma Course.checked_cons {m : Moment ε} {h : Course ε} : Checked (m :: h) ↔ Checked [m] ∧ Checked h := by
  simp only [Checked, inputs, List.flatMap_cons, List.flatMap_nil, List.append_nil, List.mem_append]
  constructor
  · intro checked
    exact ⟨fun n hn => checked n (.inl hn), fun n hn => checked n (.inr hn)⟩
  · rintro ⟨now, later⟩ n hn
    exact hn.elim (now n) (later n)

variable [Engine ε]

/-- What a moment comes to: the station after it, and what was done. -/
def Moment.outcome (m : Moment ε) : Station ε × Outcome := m.before.act m.act

/-- The same acts, but that some of the ticks are announced: in their place comes a notification that the focus is where
it is. -/
inductive Announced : Station ε → List (Act ε) → List (Act ε) → Prop where
  | nil {s} :
    Announced s [] []
  | same {s a acts acts'} :
    Announced (s.act a).1 acts acts' →
    Announced s (a :: acts) (a :: acts')
  | tick {s acts acts'} :
    Announced (s.act (.take (.focus .pollTick))).1 acts acts' →
    Announced s (.take (.focus .pollTick) :: acts)
      (.take (.notification (.windowFocusChanged s.reporter.view.focusNow)) :: acts')

variable {s : Station ε} {a : Act ε} {acts acts' : List (Act ε)}

/-- No act changes the platform. -/
lemma act_platform : (s.act a).1.reporter.platform = s.reporter.platform :=
  act_keeps (P := fun r => r.platform = s.reporter.platform) rfl fun i _ => (s.deed i).reaction.platform_eq

/-- What is checked keeps a view grounded. -/
lemma act_grounded (gr : s.reporter.view.Grounded) (checked : Course.Checked [⟨s, a⟩]) :
    (s.act a).1.reporter.view.Grounded := by
  refine act_keeps (P := fun r => r.view.Grounded) gr ?_
  intro i hi
  have view : (s.deed i).after.view = (s.reporter.look i).view := (s.deed i).reaction.view_eq
  rw [view]
  cases i with
  | notification n => exact gr.observe (checked n (by simp [Course.inputs, hi]))
  | _ => exact gr

/-- Where ticks count, a notification that the focus is where it is comes to what a tick comes to. -/
lemma act_focusNow (gr : s.reporter.view.Grounded) (hp : s.reporter.platform.name ≠ "mac") :
    s.act (.take (.notification (.windowFocusChanged s.reporter.view.focusNow))) = s.act (.take (.focus .pollTick)) := by
  rw [act, act, process, process, Reporter.handle_focusNow gr hp]

/-- Where ticks do not count, a tick comes to nothing. -/
lemma act_pollTick (hp : s.reporter.platform.name = "mac") : s.act (.take (.focus .pollTick)) = (s, .none) := by
  rw [act, process, Reporter.handle_pollTick hp]
  rfl

/-- Where ticks count, announcing them leaves each moment with its outcome. -/
lemma Announced.outcomes (an : Announced s acts acts') (gr : s.reporter.view.Grounded)
    (hp : s.reporter.platform.name ≠ "mac") (checked : (s.course acts).Checked) :
    (s.course acts').map Moment.outcome = (s.course acts).map Moment.outcome := by
  induction an with
  | nil => rfl
  | same _ ih =>
    obtain ⟨now, later⟩ := Course.checked_cons.1 checked
    have rest := ih (act_grounded gr now) (by rwa [act_platform]) later
    rw [course, course, List.map_cons, List.map_cons, rest]
  | tick _ ih =>
    obtain ⟨now, later⟩ := Course.checked_cons.1 checked
    have rest := ih (act_grounded gr now) (by rwa [act_platform]) later
    -- The announced tick leaves the same station behind, so the rest starts from there in both courses.
    have first := act_focusNow gr hp
    rw [course, course, List.map_cons, List.map_cons, first, rest]
    exact congrArg (· :: _) first

/-- Where no tick counts, leaving them out leaves all other moments as they are. -/
lemma course_without_ticks (hp : s.reporter.platform.name = "mac") :
    s.course (acts.filter (!·.isTick)) = (s.course acts).filter (!·.act.isTick) ∧
      ∀ m ∈ s.course acts, m.act.isTick = true → m.outcome = (m.before, .none) := by
  induction acts generalizing s with
  | nil => exact ⟨rfl, List.forall_mem_nil _⟩
  | cons a acts ih =>
    obtain ⟨without, ticks⟩ := ih (s := (s.act a).1) (by rwa [act_platform])
    rw [course, List.forall_mem_cons]
    cases ha : a.isTick with
    | true =>
      obtain rfl := Act.isTick_iff.1 ha
      -- The station stands still in a tick, so what comes after it starts where it would without it.
      have still := act_pollTick hp
      rw [still] at without ticks ⊢
      rw [List.filter_cons_of_neg (by simp [ha]), List.filter_cons_of_neg (by simp [ha])]
      refine ⟨without, ?_, ticks⟩
      intro _
      exact still
    | false =>
      rw [List.filter_cons_of_pos (by simp [ha]), List.filter_cons_of_pos (by simp [ha]), course, without]
      exact ⟨rfl, nofun, ticks⟩

/-- Ticks say nothing that is not known, whatever the engine is. Where the focus has to be polled and all notifications
are checked, any of them may be announced instead: the station after each moment, what it answers and what it calls
remain the same. Where the focus needs no polling, all ticks may be left out, and all other moments remain the same. -/
theorem ticks_say_nothing {platform : Platform} {engine : ε} {acts : List (Act ε)} :
    (platform.name ≠ "mac" → ((start platform engine).course acts).Checked →
      ∀ acts', Announced (start platform engine) acts acts' →
        ((start platform engine).course acts').map Moment.outcome =
          ((start platform engine).course acts).map Moment.outcome) ∧
    (platform.name = "mac" →
      (start platform engine).course (acts.filter (!·.isTick)) =
          ((start platform engine).course acts).filter (!·.act.isTick) ∧
        ∀ m ∈ (start platform engine).course acts, m.act.isTick = true → m.outcome = (m.before, .none)) := by
  constructor
  · intro hp checked acts' an
    have unfocused : (start platform engine).reporter.view.Grounded := nofun
    exact an.outcomes unfocused hp checked
  · intro hp
    exact course_without_ticks hp

/-- The focus is on a window and leaves it, and each time a tick follows. -/
def watched : List (Act RehearsedEngine) := [
  .take (.control .startTracking none 0), .next,
  .take (.notification (.snapshot [⟨1, true, [⟨7, "https://a.example", true⟩]⟩])),
  .take (.focus .pollTick), .next,
  .take (.notification (.windowFocusChanged (-1))),
  .take (.focus .pollTick)]

/-- The same acts with the ticks announced. -/
def watchedAnnounced : List (Act RehearsedEngine) := [
  .take (.control .startTracking none 0), .next,
  .take (.notification (.snapshot [⟨1, true, [⟨7, "https://a.example", true⟩]⟩])),
  .take (.notification (.windowFocusChanged 1)), .next,
  .take (.notification (.windowFocusChanged (-1))),
  .take (.notification (.windowFocusChanged (-1)))]

/-- The first tick begins a switch and the second one pauses; on a platform that needs no polling they do nothing. -/
theorem ticks_say_nothing_watched :
    let linux := start ⟨"linux"⟩ RehearsedEngine.initial
    let mac := start ⟨"mac"⟩ RehearsedEngine.initial
    (linux.course watched).calls =
        [.start .user, .start (.window 1 1), .switchUrl "https://a.example", .stop, .stop] ∧
      (linux.course watchedAnnounced).map Moment.outcome = (linux.course watched).map Moment.outcome ∧
      mac.course (watched.filter (!·.isTick)) = (mac.course watched).filter (!·.act.isTick) := by
  intro linux mac
  have checked : (linux.course watched).Checked := by
    have inputs : (linux.course watched).inputs = [.control .startTracking none 0, .startAcked true .user,
      .notification (.snapshot [⟨1, true, [⟨7, "https://a.example", true⟩]⟩]), .focus .pollTick,
      .startAcked true (.window 1 1), .notification (.windowFocusChanged (-1)), .focus .pollTick] := by decide
    intro n hn
    rw [inputs] at hn
    simp only [List.mem_cons, Input.notification.injEq, reduceCtorEq, false_or, or_false, List.not_mem_nil] at hn
    rcases hn with rfl | rfl <;> rfl
  have announced : Announced linux watched watchedAnnounced := by
    refine .same (.same (.same (.tick ?_)))
    exact .same (.same (.tick .nil))
  have calls : (linux.course watched).calls =
      [.start .user, .start (.window 1 1), .switchUrl "https://a.example", .stop, .stop] := by decide
  obtain ⟨_, without⟩ := @ticks_say_nothing _ _ ⟨"mac"⟩ RehearsedEngine.initial watched
  obtain ⟨same, _⟩ := @ticks_say_nothing _ _ ⟨"linux"⟩ RehearsedEngine.initial watched
  exact ⟨calls, same (by decide) checked _ announced, (without rfl).1⟩

end Station

end FocusJournal
