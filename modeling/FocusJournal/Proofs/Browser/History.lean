import FocusJournal.Proofs.Browser.Observation
import Mathlib.Data.List.DropRight

/-!
# Views and their history

A view is built from notifications, but what it answers can be read off them without building it: of what was told since
the last snapshot the last word counts, and where nothing was told the snapshot itself. `Recalls` says so of a question,
and `Recalls.ofHistory` carries it from one notification to a whole history. The main statement is
`answers_of_history`: the URL of a tab, the window that was focused last and whether it still is.
-/

namespace FocusJournal

namespace Notification

/-- The windows of a snapshot. -/
def windows? : Notification → Option (List WindowView)
  | .snapshot windows => some windows
  | _ => none

/-- The URL that a tab is said to show. -/
def url? (tab : TabId) : Notification → Option String
  | .tabUpdated t _ url => if t = tab then some url else none
  | _ => none

/-- The window that the focus moves to, which is below zero for none. -/
def focus? : Notification → Option WindowId
  | .windowFocusChanged window => some window
  | _ => none

end Notification

namespace BrowserView

/-- What is known of the browser after notifications, the newest of which comes last. -/
def ofHistory (h : List Notification) : BrowserView := h.foldl observe empty

/-- The windows of the last snapshot; none before the first one. -/
def lastSnapshot (h : List Notification) : List WindowView := (h.filterMap Notification.windows?).getLast?.getD []

/-- What was observed since the last snapshot. -/
def sinceSnapshot (h : List Notification) : List Notification := h.rtakeWhile fun n => n.windows? = none

/-- Where the focus moved since the last snapshot. -/
def focusChanges (h : List Notification) : List WindowId := (sinceSnapshot h).filterMap Notification.focus?

/-- The newest notification is observed last. -/
@[simp] lemma ofHistory_concat (h : List Notification) (n : Notification) :
    ofHistory (h ++ [n]) = (ofHistory h).observe n := by
  rw [ofHistory, List.foldl_append]
  rfl

/-- A newest notification that is a snapshot is the last one, and no other changes which one is. -/
lemma lastSnapshot_concat (h : List Notification) (n : Notification) :
    lastSnapshot (h ++ [n]) = n.windows?.getD (lastSnapshot h) := by
  cases hn : n.windows? <;> simp [lastSnapshot, hn]

/-- A snapshot is followed by nothing yet, and any other notification comes after what came before it. -/
lemma sinceSnapshot_concat (h : List Notification) (n : Notification) :
    sinceSnapshot (h ++ [n]) = if n.windows? = none then sinceSnapshot h ++ [n] else [] := by
  rw [sinceSnapshot, List.rtakeWhile_concat]
  simp [sinceSnapshot]

/-- A snapshot makes the past irrelevant. -/
lemma ofHistory_snapshot (earlier : List Notification) (windows : List WindowView) (later : List Notification) :
    ofHistory (earlier ++ .snapshot windows :: later) = ofHistory (.snapshot windows :: later) := by
  rw [ofHistory, List.foldl_append]
  rfl

/-- A question to which a notification may tell the answer: a snapshot always does, and where another one does not, the
answer stays what it was. -/
structure Recalls {α : Type} (answer : BrowserView → Option α) (told : Notification → Option α)
    (listed : List WindowView → Option α) : Prop where
  start : answer empty = listed []
  step : ∀ (v : BrowserView) (n : Notification), answer (v.observe n) = n.windows?.elim ((told n).or (answer v)) listed

/-- The answer is what was told last since the last snapshot, or else what that lists. -/
lemma Recalls.ofHistory {α : Type} {answer : BrowserView → Option α} {told listed} (re : Recalls answer told listed)
    (h : List Notification) :
    answer (ofHistory h) = ((sinceSnapshot h).filterMap told).getLast?.or (listed (lastSnapshot h)) := by
  induction h using List.reverseRecOn with
  | nil => exact re.start
  | append_singleton h n ih =>
    rw [ofHistory_concat, re.step, lastSnapshot_concat, sinceSnapshot_concat]
    -- A snapshot starts afresh; any other notification is the last word if it tells anything.
    cases n.windows? with
    | some windows => rfl
    | none =>
      rw [Option.elim_none, ih, Option.getD_none, if_pos rfl, List.filterMap_append, List.getLast?_append,
        Option.or_assoc]
      cases ht : told n <;> simp [ht]

/-- The URL of a tab is the last one that was told of it since the last snapshot, or else the one listed there. -/
lemma recalls_tabUrl (tab : TabId) :
    Recalls (fun v => v.tabUrl? tab) (Notification.url? tab)
      fun windows => ((windows.flatMap WindowView.tabs).filter (·.id = tab)).getLast?.map TabView.url where
  start := rfl
  step v n := by
    cases n with
    | tabUpdated t window url =>
      rw [observe, tabUrl?_eq, record_update]
      by_cases h : tab = t
      · simp [Notification.windows?, Notification.url?, h]
      · simp [Notification.windows?, Notification.url?, h, Ne.symm h, tabUrl?_eq]
    | tabActivated t window => exact tabUrl?_activate v t tab window
    | windowFocusChanged window =>
      rw [observe, tabUrl?_eq, record_focus, ← tabUrl?_eq]
      rfl
    | snapshot windows => exact tabUrl?_ofWindows tab windows

/-- The window focused last is the last one that came into focus, or else the one that the last snapshot marks. -/
lemma recalls_lastFocused :
    Recalls (fun v => v.lastFocused) (fun n => n.focus?.filter (0 ≤ ·))
      fun windows => (windows.filter WindowView.focused).getLast?.map WindowView.id where
  start := rfl
  step v n := by
    cases n with
    | windowFocusChanged window =>
      rw [observe, lastFocused_focus]
      by_cases h : 0 ≤ window <;> simp [h, Notification.windows?, Notification.focus?, Option.filter]
    | _ => rfl

/-- Whether a window has the focus is told by the last change of focus, or else by the marks of the last snapshot. -/
lemma recalls_hasFocus :
    Recalls (fun v => some v.hasFocus) (fun n => n.focus?.map fun window => decide (0 ≤ window))
      fun windows => some (windows.any WindowView.focused) where
  start := rfl
  step v n := by
    cases n with
    | windowFocusChanged window =>
      rw [observe, hasFocus_focus]
      rfl
    | snapshot windows => exact congrArg some (hasFocus_ofWindows windows)
    | _ => rfl

/-- The URL of a tab is that of its last update since the last snapshot, or else that of its last entry there. The window
that was focused last is that of the last change of focus to a window since then, or else the last one that is marked in
the snapshot; it has the focus if the last change of focus was to a window, or without one if a window is marked. What
was observed before a snapshot has no influence. -/
theorem answers_of_history (h : List Notification) :
    (∀ tab, (ofHistory h).tabUrl? tab =
      ((sinceSnapshot h).filterMap (Notification.url? tab)).getLast?.or
        ((((lastSnapshot h).flatMap WindowView.tabs).filter (·.id = tab)).getLast?.map TabView.url)) ∧
    (ofHistory h).lastFocused? =
      (((focusChanges h).filter (0 ≤ ·)).getLast?.or
        (((lastSnapshot h).filter WindowView.focused).getLast?.map WindowView.id)).map (fun id =>
          ⟨id, ((focusChanges h).getLast?.map fun window => decide (0 ≤ window)).getD
            ((lastSnapshot h).any WindowView.focused)⟩) ∧
    ∀ earlier windows later,
      ofHistory (earlier ++ .snapshot windows :: later) = ofHistory (.snapshot windows :: later) := by
  have last := recalls_lastFocused.ofHistory h
  have focused := recalls_hasFocus.ofHistory h
  rw [← List.filter_filterMap] at last
  rw [← List.map_filterMap, List.getLast?_map, Option.or_some] at focused
  refine ⟨fun tab => (recalls_tabUrl tab).ofHistory h, ?_, ofHistory_snapshot⟩
  rw [lastFocused?, last, Option.some.inj focused]
  rfl

end BrowserView

end FocusJournal
