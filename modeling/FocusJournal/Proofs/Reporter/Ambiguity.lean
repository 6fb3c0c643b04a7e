import FocusJournal.Proofs.Reporter.Provenance

/-!
# Ambiguous windows

A window whose switch is to be settled should have one active tab. An activation leaves it with that tab alone, and no
other notification than a snapshot makes a tab active, so what is kept for a window is part of what the last snapshot
lists as active there (`actives_cases`). `ambiguity_from_snapshots` says so of what a view answers, and that a reporter
whose snapshots list each window once, with one active tab at most, settles no window that has several.
-/

open scoped List

namespace FocusJournal

/-- A snapshot lists no window twice, and none with several active tabs. -/
def Notification.Unambiguous (n : Notification) : Prop :=
  ∀ windows ∈ n.windows?, (windows.map WindowView.id).Nodup ∧ ∀ w ∈ windows, (w.tabs.filter TabView.active).length ≤ 1

namespace BrowserView

/-- What a snapshot lists as active tabs of a window. -/
def listedActive (windows : List WindowView) (window : WindowId) : List TabView :=
  (windows.filter (·.id = window)).flatMap fun w => w.tabs.filter TabView.active

variable {v : BrowserView} {n : Notification} {window : WindowId}

/-- An activation in a window leaves one tab active there. -/
lemma actives_of_activation (ha : n.activation? = some window) : ∃ tab, (v.observe n).actives window = [tab] := by
  cases n with
  | tabActivated tab other =>
    cases ha
    exact ⟨tab, (actives_activate v tab window window).trans (if_pos rfl)⟩
  | _ => cases ha

/-- Nothing else makes a tab active in a window, except for a snapshot. -/
lemma actives_sublist (hw : n.windows? = none) (ha : n.activation? ≠ some window) :
    (v.observe n).actives window <+ v.actives window := by
  cases n with
  | tabUpdated tab window? url => exact List.Sublist.refl _
  | tabActivated tab other =>
    have ho : window ≠ other := fun e => ha (congrArg some e.symm)
    rw [observe, actives_activate, if_neg ho]
    split
    · exact List.filter_sublist
    · exact List.Sublist.refl _
  | windowFocusChanged other =>
    rw [observe, actives_focus]
  | snapshot windows => cases hw

/-- A window has one active tab at most, or what is active there was listed so in the last snapshot and nothing was
activated there since. -/
lemma actives_cases (h : List Notification) (window : WindowId) :
    ((ofHistory h).actives window).length ≤ 1 ∨
      ∃ earlier windows since, h = earlier ++ .snapshot windows :: since ∧
        (∀ n ∈ since, n.windows? = none ∧ n.activation? ≠ some window) ∧
        (ofHistory h).actives window <+ (listedActive windows window).map TabView.id := by
  -- From the last notification back: it replaces what is kept for the window, or leaves it as it was or with less.
  induction h using List.reverseRecOn with
  | nil => exact .inl (Nat.zero_le _)
  | append_singleton h n ih =>
    rw [ofHistory_concat]
    cases hw : n.windows? with
    | some windows =>
      cases n with
      | snapshot windows' =>
        cases hw
        refine .inr ⟨h, windows, [], rfl, nofun, ?_⟩
        rw [observe, actives_ofWindows, listedActive, List.map_flatMap]
      | _ => cases hw
    | none =>
      by_cases ha : n.activation? = some window
      · obtain ⟨tab, ht⟩ := actives_of_activation (v := ofHistory h) ha
        exact .inl (by rw [ht, List.length_singleton])
      · have fewer := actives_sublist (v := ofHistory h) hw ha
        rcases ih with few | ⟨earlier, windows, since, rfl, spared, listed⟩
        · exact .inl (Nat.le_trans fewer.length_le few)
        · refine .inr ⟨earlier, windows, since ++ [n], by simp, ?_, fewer.trans listed⟩
          exact List.forall_mem_append.2 ⟨spared, List.forall_mem_singleton.2 ⟨hw, ha⟩⟩

/-- An answer about active tabs leaves out those without a URL, and adds none. -/
lemma length_activeTabs_le : (v.activeTabs window).length ≤ (v.actives window).length := by
  rw [activeTabs_eq]
  exact List.length_filterMap_le ..

/-- Several active tabs of a window were all listed in the last snapshot. -/
lemma exists_listing {h : List Notification} (several : 2 ≤ ((ofHistory h).activeTabs window).length) :
    ∃ earlier windows since, h = earlier ++ .snapshot windows :: since ∧
      (∀ n ∈ since, n.windows? = none ∧ n.activation? ≠ some window) ∧
      2 ≤ (listedActive windows window).length := by
  have kept := Nat.le_trans several length_activeTabs_le
  rcases actives_cases h window with few | ⟨earlier, windows, since, heq, spared, listed⟩
  · omega
  · have all := listed.length_le
    rw [List.length_map] at all
    exact ⟨earlier, windows, since, heq, spared, Nat.le_trans kept all⟩

/-- A snapshot without ambiguity lists at most one active tab of a window. -/
lemma length_listedActive_le {windows : List WindowView} (un : (Notification.snapshot windows).Unambiguous) :
    (listedActive windows window).length ≤ 1 := by
  obtain ⟨once, few⟩ := un windows rfl
  have single : (windows.filter (·.id = window)).length ≤ 1 := by
    have counted := List.nodup_iff_count_le_one.1 once window
    rwa [List.count, List.countP_map, List.countP_eq_length_filter] at counted
  rw [listedActive]
  match hf : windows.filter (·.id = window) with
  | [] =>
    rw [hf]
    exact Nat.zero_le _
  | [w] =>
    rw [hf, List.flatMap_singleton]
    exact few w (List.mem_of_mem_filter (hf ▸ List.mem_singleton_self w))
  | w :: w' :: ws =>
    rw [hf] at single
    simp at single

end BrowserView

/-- Only a snapshot makes a window ambiguous: a window with several active tabs was listed with several in the last
snapshot, and nothing was activated there since. So where a reporter settles a window all of whose snapshots list each
window once, with one active tab at most, the window has that tab or none, whatever the reporter is told and in whatever
order. -/
theorem ambiguity_from_snapshots :
    (∀ h window, 2 ≤ ((BrowserView.ofHistory h).activeTabs window).length →
      ∃ earlier windows since, h = earlier ++ .snapshot windows :: since ∧
        (∀ n ∈ since, n.windows? = none ∧ n.activation? ≠ some window) ∧
        2 ≤ (BrowserView.listedActive windows window).length) ∧
    ∀ platform registered line, (∀ n recording, (recording, .notification n) ∈ line → n.Unambiguous) →
      ∀ d ∈ (Reporter.initial platform registered).deeds line, ∀ origin, d.settled? = some origin →
        ∃ window generation, origin = .window window generation ∧ d.before.Completes window d.after d.calls ∧
          (d.before.view.activeTabs window).length < 2 := by
  refine ⟨fun h window => BrowserView.exists_listing, ?_⟩
  intro platform registered line unambiguous d hd origin hs
  obtain ⟨h₁, h₂, heq⟩ := List.append_of_mem hd
  have noted_un : ∀ n ∈ noted h₁, n.Unambiguous := by
    intro n hn
    obtain ⟨e, he, hi⟩ := mem_noted.1 hn
    have hl := Reporter.mem_line_of_mem_deeds (heq ▸ List.mem_append_left _ he)
    rw [hi] at hl
    exact unambiguous n e.recording hl
  obtain ⟨_, window, ho, completes⟩ := Deed.settled hs
  refine ⟨window, _, ho, completes, ?_⟩
  rw [Reporter.view_before heq]
  by_contra hc
  -- The several tabs would all be listed in the last snapshot.
  have several : 2 ≤ ((BrowserView.ofHistory (noted h₁)).activeTabs window).length := Nat.not_lt.1 hc
  obtain ⟨earlier, windows, since, hn, _, listed⟩ := BrowserView.exists_listing several
  have few : (BrowserView.listedActive windows window).length ≤ 1 :=
    BrowserView.length_listedActive_le (noted_un _ (hn ▸ List.mem_append_right _ (List.mem_cons_self ..)))
  omega

/-- Two entries of a snapshot have one id and an active tab each, and one of the tabs is updated. -/
def doubledWindow : List Notification := [
  .snapshot [⟨1, true, [⟨7, "https://a.example", true⟩]⟩, ⟨1, false, [⟨8, "https://b.example", true⟩]⟩],
  .tabUpdated 7 none "https://c.example"]

/-- The focus moves to a window without an active tab. -/
def tablessWindow : List (Bool × Input) := [
  (false, .control .startTracking none 0),
  (true, .notification (.snapshot [⟨1, false, [⟨7, "https://a.example", false⟩]⟩])),
  (true, .focus (.windowFocusChanged 1)),
  (true, .startAcked true .user),
  (true, .startAcked true (.window 1 1))]

/-- The snapshot is where the two tabs come from; the window without one is settled by a stop. -/
theorem ambiguity_from_snapshots_doubledWindow :
    (∃ earlier windows since, doubledWindow = earlier ++ .snapshot windows :: since ∧
      (∀ n ∈ since, n.windows? = none ∧ n.activation? ≠ some 1) ∧
      2 ≤ (BrowserView.listedActive windows 1).length) ∧
    let deeds := (Reporter.initial ⟨"linux"⟩ true).deeds tablessWindow
    deeds.filterMap Deed.settled? = [.window 1 1] ∧ (deeds.drop 4).map Deed.calls = [[.stop]] ∧
      ∀ d ∈ deeds, ∀ origin, d.settled? = some origin →
        ∃ window generation, origin = .window window generation ∧ d.before.Completes window d.after d.calls ∧
          (d.before.view.activeTabs window).length < 2 := by
  have unambiguous : ∀ n recording, (recording, .notification n) ∈ tablessWindow → n.Unambiguous := by
    simp [tablessWindow, Notification.Unambiguous, Notification.windows?]
  refine ⟨ambiguity_from_snapshots.1 doubledWindow 1 (by decide), by decide, by decide, ?_⟩
  exact ambiguity_from_snapshots.2 ⟨"linux"⟩ true tablessWindow unambiguous

end FocusJournal
