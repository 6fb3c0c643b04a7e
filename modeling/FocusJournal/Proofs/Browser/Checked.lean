import FocusJournal.Proofs.Browser.Observation

/-!
# Checked notifications

A notification that passes its check gives no window an id below zero, so a view that is built from such notifications
knows a real window whenever it has the focus (`Grounded`). Such a view does not change when it is told where the focus
is.
-/

namespace FocusJournal

/-- Checks are passed one after the other. -/
lemma Refusal.bind_eq_ok {α : Type} {x : Except Refusal Unit} {f : Unit → Except Refusal α} {a : α} :
    x >>= f = .ok a ↔ x = .ok () ∧ f () = .ok a := by
  cases x with
  | error e =>
    constructor
    · nofun
    · rintro ⟨⟨⟩, _⟩
  | ok u => exact (and_iff_right rfl).symm

/-- A list passes a check if each of its elements does. -/
lemma Refusal.forM_eq_ok {α : Type} {check : α → Except Refusal Unit} {l : List α} (h : l.forM check = .ok ()) :
    ∀ x ∈ l, check x = .ok () := by
  induction l with
  | nil => exact nofun
  | cons x l ih =>
    obtain ⟨hx, hl⟩ := Refusal.bind_eq_ok.1 h
    exact List.forall_mem_cons.2 ⟨hx, ih hl⟩

/-- A notification that was read makes sense. -/
lemma Notification.check_of_parse {j : Json} {n : Notification} (h : parse j = .ok n) : n.check = .ok () := by
  rw [parse] at h
  split at h
  · cases h
  · next m _ =>
    cases hc : m.check with
    | error r => rw [hc] at h; cases h
    | ok u => rw [hc] at h; rw [← Except.ok.inj h, hc]

/-- The windows of a snapshot that makes sense have no negative ids. -/
lemma Notification.id_of_check {windows : List WindowView} (h : (snapshot windows).check = .ok ()) :
    ∀ w ∈ windows, 0 ≤ w.id := by
  intro w hw
  rw [check] at h
  split at h
  · cases h
  obtain ⟨_, views⟩ := Refusal.bind_eq_ok.1 h
  obtain ⟨window, _⟩ := Refusal.bind_eq_ok.1 (Refusal.forM_eq_ok views w hw)
  rw [checkWindow] at window
  split at window
  · cases window
  · next hn => exact Int64.not_lt.1 hn

namespace BrowserView

/-- Where the focus is, as a notification tells it. -/
def focusNow (v : BrowserView) : WindowId := v.focusedWindow?.getD (-1)

/-- A view that has the focus knows the window. -/
def Grounded (v : BrowserView) : Prop := v.hasFocus = true → ∃ window, v.lastFocused = some window ∧ 0 ≤ window

variable {v : BrowserView}

/-- Checked notifications keep a view grounded. -/
lemma Grounded.observe {n : Notification} (gr : Grounded v) (hn : n.check = .ok ()) : Grounded (v.observe n) := by
  cases n with
  | tabUpdated tab window url => exact gr
  | tabActivated tab window => exact gr
  | windowFocusChanged window =>
    intro hf
    rw [BrowserView.observe, hasFocus_focus] at hf
    have hw := of_decide_eq_true hf
    refine ⟨window, ?_, hw⟩
    rw [BrowserView.observe, lastFocused_focus, if_pos hw]
  | snapshot windows =>
    intro hf
    obtain ⟨window, hw⟩ := Option.isSome_iff_exists.1 hf
    obtain ⟨w, hl, rfl⟩ := Option.map_eq_some_iff.1 hw
    exact ⟨w.id, hw, Notification.id_of_check hn w (List.mem_filter.1 (List.mem_of_getLast? hl)).1⟩

/-- A grounded view stays as it is when it is told where the focus is. -/
lemma Grounded.focus_focusNow (gr : Grounded v) : v.focus v.focusNow = v := by
  obtain ⟨tabs, active, last, has⟩ := v
  cases has with
  | false => rfl
  | true =>
    obtain ⟨window, hl, hw⟩ := gr rfl
    cases hl
    rw [focus, focusNow, focusedWindow?, if_pos rfl, Option.getD_some, if_neg (Int64.not_lt.2 hw)]

end BrowserView

end FocusJournal
