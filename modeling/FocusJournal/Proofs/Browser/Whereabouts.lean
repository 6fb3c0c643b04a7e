import FocusJournal.Proofs.Browser.History
import Mathlib.Data.List.Nodup

/-!
# The whereabouts of tabs

A tab is in one window, the one where it was reported last, and only there should it be active. A tab that is activated
elsewhere is dropped from the window where it was reported last. An update may report it in another window without
that, and then it is not dropped any more: it has strayed. `placed_iff` says that this is the only way.
-/

namespace FocusJournal

namespace Notification

/-- The windows that a notification reports a tab in. -/
def reports (tab : TabId) : Notification → List WindowId
  | .tabUpdated t window? _ => if t = tab then window?.toList else []
  | .tabActivated t window => if t = tab then [window] else []
  | .windowFocusChanged _ => []
  | .snapshot windows => (BrowserView.listings windows tab).map fun (w, _) => w.id

/-- The window in which a tab is activated. -/
def activation? : Notification → Option WindowId
  | .tabActivated _ window => some window
  | _ => none

/-- A snapshot lists no window and no tab twice. -/
def ListsOnce (n : Notification) : Prop :=
  ∀ windows ∈ n.windows?, (windows.map WindowView.id).Nodup ∧ ((windows.flatMap WindowView.tabs).map TabView.id).Nodup

instance (n : Notification) : Decidable n.ListsOnce := inferInstanceAs (Decidable (∀ windows ∈ n.windows?, _))

/-- A notification says neither which tabs are active in a window nor that a tab is there. -/
def Spares (tab : TabId) (window : WindowId) (n : Notification) : Prop :=
  n.windows? = none ∧ n.activation? ≠ some window ∧ window ∉ n.reports tab

end Notification

namespace BrowserView

/-- The tabs that a view gives as active in a window. -/
def shown (v : BrowserView) (window : WindowId) : List TabId := (v.activeTabs window).map ActiveTab.id

/-- The window where a tab was reported last. -/
def reported? (h : List Notification) (tab : TabId) : Option WindowId := (h.flatMap (Notification.reports tab)).getLast?

/-- A tab is given as active in one window at most, and that is the one where it was reported last. -/
structure Placed (h : List Notification) (tab : TabId) : Prop where
  single : ∀ window window', tab ∈ (ofHistory h).shown window → tab ∈ (ofHistory h).shown window' → window = window'
  reported : ∀ window, tab ∈ (ofHistory h).shown window → reported? h tab = some window

/-- A tab was updated in another window and is still given as active in this one. -/
inductive Strayed (tab : TabId) (window : WindowId) : List Notification → Prop where
  | moved {h other url} :
    other ≠ window →
    tab ∈ (ofHistory (h ++ [.tabUpdated tab (some other) url])).shown window →
    Strayed tab window (h ++ [.tabUpdated tab (some other) url])
  | spared {h n} :
    Strayed tab window h →
    n.Spares tab window →
    Strayed tab window (h ++ [n])

variable {h : List Notification} {n : Notification} {v : BrowserView} {windows : List WindowView}
  {tab tab' : TabId} {window window' : WindowId}

/-- A tab is shown in a window if it is kept as active there and its URL is known. -/
lemma mem_shown : tab ∈ v.shown window ↔ tab ∈ v.actives window ∧ (v.tabUrl? tab).isSome := by
  simp [shown, activeTabs_eq, Option.isSome_iff_exists]

/-- A tab is where the newest notification reports it, or else where it was. -/
lemma reported?_concat : reported? (h ++ [n]) tab = (n.reports tab).getLast?.or (reported? h tab) := by
  simp [reported?]

/-- An activation leaves its tab alone active in the window, and takes it from the window that it was recorded in. -/
lemma mem_actives_activate :
    tab' ∈ (v.activate tab window).actives window' ↔
      if window' = window then tab' = tab
      else tab' ∈ v.actives window' ∧ (tab' = tab → (v.record tab).window ≠ some window') := by
  rw [actives_activate]
  split
  · exact List.mem_singleton
  · split
    · next hr => simp [hr]
    · next hr => simp [hr]

/-- A tab is listed as often as a window of the snapshot has it. -/
lemma mem_listings {x : WindowView × TabView} :
    x ∈ listings windows tab ↔ x.1 ∈ windows ∧ x.2 ∈ x.1.tabs ∧ x.2.id = tab := by
  obtain ⟨w, t⟩ := x
  simp [listings]

/-- After a snapshot a tab is active in a window if it is listed so there. -/
lemma mem_actives_ofWindows :
    tab ∈ (ofWindows windows).actives window ↔ ∃ x ∈ listings windows tab, x.1.id = window ∧ x.2.active = true := by
  simp only [actives_ofWindows, List.mem_flatMap, List.mem_filter, List.mem_map, decide_eq_true_eq, mem_listings]
  constructor
  · rintro ⟨w, ⟨hw, rfl⟩, t, ⟨ht, ha⟩, rfl⟩
    exact ⟨(w, t), ⟨hw, ht, rfl⟩, rfl, ha⟩
  · rintro ⟨⟨w, t⟩, ⟨hw, ht, rfl⟩, rfl, ha⟩
    exact ⟨w, ⟨hw, rfl⟩, t, ⟨ht, ha⟩, rfl⟩

/-- A snapshot that lists no tab twice lists each in one window. -/
lemma ListsOnce.listings_eq {x y : WindowView × TabView} (once : (Notification.snapshot windows).ListsOnce)
    (hx : x ∈ listings windows tab) (hy : y ∈ listings windows tab) : x = y := by
  have distinct : ((listings windows tab).map fun x => x.2.id).Nodup := by
    have snd : ((listings windows tab).map Prod.snd).map TabView.id = (listings windows tab).map fun x => x.2.id :=
      List.map_map
    rw [← snd, listings_snd]
    exact (List.filter_sublist.map TabView.id).nodup (once windows rfl).2
  apply List.inj_on_of_nodup_map distinct hx hy
  exact (mem_listings.1 hx).2.2.trans (mem_listings.1 hy).2.2.symm

/-- The record of an active tab tells where it was reported last. -/
lemma window_record (hm : tab ∈ (ofHistory h).actives window) :
    ((ofHistory h).record tab).window = reported? h tab := by
  induction h using List.reverseRecOn with
  | nil => cases hm
  | append_singleton h n ih =>
    -- Only an activation changes who is active outside snapshots, and it drops a tab or records its window.
    rw [ofHistory_concat] at hm ⊢
    rw [reported?_concat]
    cases n with
    | tabUpdated t window? url =>
      rw [observe, record_update]
      by_cases ht : tab = t
      · subst ht
        rw [if_pos rfl, ih hm]
        cases window? <;> simp [Notification.reports]
      · rw [if_neg ht, ih hm]
        simp [Notification.reports, Ne.symm ht]
    | tabActivated t other =>
      rw [observe, record_activate]
      by_cases ht : tab = t
      · simp [ht, Notification.reports]
      · rw [observe, mem_actives_activate] at hm
        split at hm
        · exact absurd hm ht
        · rw [if_neg ht, ih hm.1]
          simp [Notification.reports, Ne.symm ht]
    | windowFocusChanged other =>
      rw [observe, actives_focus] at hm
      rw [observe, record_focus, ih hm]
      rfl
    | snapshot windows =>
      obtain ⟨x, hx, _⟩ := mem_actives_ofWindows.1 hm
      have listed := List.getLast?_eq_some_getLast (List.ne_nil_of_mem hx)
      rw [observe, window_ofWindows, Notification.reports, List.getLast?_map, listed]
      rfl

/-- What activates nothing spares a window as long as it does not report the tab there. -/
lemma spares_of_inactive (hw : n.windows? = none) (ha : n.activation? = none) (hr : window ∉ n.reports tab) :
    n.Spares tab window :=
  ⟨hw, by simp [ha], hr⟩

/-- An active tab that was reported last elsewhere has strayed. -/
lemma strayed_of_actives (once : ∀ n ∈ h, n.ListsOnce) (hm : tab ∈ (ofHistory h).actives window)
    (hr : reported? h tab ≠ some window) : Strayed tab window h := by
  induction h using List.reverseRecOn with
  | nil => cases hm
  | append_singleton h n ih =>
    obtain ⟨once, once_n⟩ := List.forall_mem_append.1 once
    have spared (hm : tab ∈ (ofHistory h).actives window) (hr : reported? h tab ≠ some window)
        (sp : n.Spares tab window) : Strayed tab window (h ++ [n]) := .spared (ih once hm hr) sp
    have hm' := hm
    rw [ofHistory_concat] at hm'
    rw [reported?_concat] at hr
    cases n with
    | tabUpdated t window? url =>
      by_cases ht : t = tab
      · subst ht
        cases window? with
        | none =>
          have hn : Notification.reports t (.tabUpdated t none url) = [] := if_pos rfl
          rw [hn] at hr
          exact spared hm' hr (spares_of_inactive rfl rfl (by simp [hn]))
        | some other =>
          -- Here the tab goes astray.
          have ho : other ≠ window := by simpa [Notification.reports] using hr
          refine .moved ho (mem_shown.2 ⟨hm, ?_⟩)
          rw [ofHistory_concat, observe, tabUrl?_eq, record_update, if_pos rfl]
          rfl
      · have hn : Notification.reports tab (.tabUpdated t window? url) = [] := if_neg ht
        rw [hn] at hr
        exact spared hm' hr (spares_of_inactive rfl rfl (by simp [hn]))
    | tabActivated t other =>
      rw [observe, mem_actives_activate] at hm'
      split at hm'
      · next ho => simp [Notification.reports, hm', ho] at hr
      · next ho =>
        have other_only : window ∉ Notification.reports tab (.tabActivated t other) := by
          rw [Notification.reports]
          split <;> simp [ho]
        have not_reported : reported? h tab ≠ some window := by
          by_cases ht : t = tab
          -- The tab would have been dropped.
          · rw [← window_record hm'.1, ← ht]
            exact hm'.2 ht.symm
          · simpa [Notification.reports, ht] using hr
        exact spared hm'.1 not_reported ⟨rfl, fun e => ho (Option.some.inj e).symm, other_only⟩
    | windowFocusChanged other =>
      rw [observe, actives_focus] at hm'
      exact spared hm' hr (spares_of_inactive rfl rfl List.not_mem_nil)
    | snapshot windows =>
      obtain ⟨x, hx, hw, _⟩ := mem_actives_ofWindows.1 hm'
      have listed := List.getLast?_eq_some_getLast (List.ne_nil_of_mem hx)
      -- The tab is listed once, so that it is active where it is reported.
      have last := ListsOnce.listings_eq (once_n _ (List.mem_singleton_self _)) hx (List.getLast_mem (List.ne_nil_of_mem hx))
      refine absurd ?_ hr
      rw [Notification.reports, List.getLast?_map, listed, ← last, ← hw]
      rfl

/-- A tab that is out of place stays so while notifications spare its window. -/
lemma shown_of_spares (hs : tab ∈ (ofHistory h).shown window) (hr : reported? h tab ≠ some window)
    (sp : n.Spares tab window) : tab ∈ (ofHistory (h ++ [n])).shown window := by
  obtain ⟨hm, hu⟩ := mem_shown.1 hs
  obtain ⟨hn, ha, _⟩ := sp
  rw [mem_shown, ofHistory_concat]
  cases n with
  | tabUpdated t window? url =>
    refine ⟨hm, ?_⟩
    rw [observe, tabUrl?_eq, record_update]
    split
    · rfl
    · rwa [← tabUrl?_eq]
  | tabActivated t other =>
    have ho : window ≠ other := fun e => ha (congrArg some e.symm)
    refine ⟨?_, by rwa [observe, tabUrl?_activate]⟩
    rw [observe, mem_actives_activate, if_neg ho]
    refine ⟨hm, ?_⟩
    rintro rfl
    rwa [window_record hm]
  | windowFocusChanged other =>
    rw [observe, actives_focus, tabUrl?_eq, record_focus, ← tabUrl?_eq]
    exact ⟨hm, hu⟩
  | snapshot windows => cases hn

/-- A tab that has strayed is given as active where it was not reported last. -/
lemma Strayed.misplaced (st : Strayed tab window h) :
    tab ∈ (ofHistory h).shown window ∧ reported? h tab ≠ some window := by
  induction st with
  | moved ho hs =>
    refine ⟨hs, ?_⟩
    rw [reported?_concat]
    simpa [Notification.reports] using ho
  | @spared h n _ sp ih =>
    refine ⟨shown_of_spares ih.1 ih.2 sp, ?_⟩
    rw [reported?_concat]
    cases hl : (n.reports tab).getLast? with
    | none => exact ih.2
    | some w =>
      rintro ⟨⟩
      exact sp.2.2 (List.mem_of_getLast? hl)

/-- If snapshots list each window and each tab once, then a tab is given as active only in the window where it was
reported last, unless it strayed: an update reported it elsewhere while it was active, and since then there was no
snapshot, nothing was activated in that window and the tab was not reported there. -/
theorem placed_iff (once : ∀ n ∈ h, n.ListsOnce) : Placed h tab ↔ ∀ window, ¬ Strayed tab window h := by
  constructor
  · rintro placed window st
    exact st.misplaced.2 (placed.reported window st.misplaced.1)
  · intro unstrayed
    have reported window (hs : tab ∈ (ofHistory h).shown window) : reported? h tab = some window := by
      by_contra hr
      exact unstrayed window (strayed_of_actives once (mem_shown.1 hs).1 hr)
    refine ⟨?_, reported⟩
    intro window window' hs hs'
    exact Option.some.inj ((reported window hs).symm.trans (reported window' hs'))

/-- A tab is active in a window, an update reports it in another one, and there it is activated. -/
def movedTab : List Notification := [
  .tabUpdated 7 (some 1) "https://a.example", .tabActivated 7 1,
  .tabUpdated 7 (some 2) "https://a.example", .tabActivated 7 2]

/-- The tab that was moved is shown in both windows. -/
lemma movedTab_shown : 7 ∈ (ofHistory movedTab).shown 1 ∧ 7 ∈ (ofHistory movedTab).shown 2 := by
  decide

/-- The tab that was moved has strayed: it is still given as active in a window that it has left. -/
theorem placed_iff_movedTab : ∃ window, Strayed 7 window movedTab := by
  by_contra unstrayed
  have placed : Placed movedTab 7 := (placed_iff (by decide)).2 (not_exists.1 unstrayed)
  exact absurd (placed.single 1 2 movedTab_shown.1 movedTab_shown.2) (by decide)

/-- A tab can be given as active in two windows, though every notification makes sense. -/
theorem not_always_placed : ¬ ∀ {h tab}, (∀ n ∈ h, n.check = .ok ()) → (∀ n ∈ h, n.ListsOnce) → Placed h tab := by
  intro placed
  have checked : ∀ n ∈ movedTab, n.check = .ok () := by
    simp only [movedTab, List.forall_mem_cons]
    exact ⟨rfl, rfl, rfl, rfl, nofun⟩
  exact absurd ((placed checked (by decide)).single 1 2 movedTab_shown.1 movedTab_shown.2) (by decide)

end BrowserView

end FocusJournal
