import FocusJournal.Browser.View
import Mathlib.Tactic.Lemma

/-!
# Observations

What a notification changes in the view of the browser, one question at a time: what is known of a tab (`record`), which
tabs are kept as active in a window (`actives`), and where the focus was and is. The other proofs about views rest on
these lemmas.
-/

namespace FocusJournal

namespace BrowserView

/-- The tabs that are kept as active in a window, those without a known URL included. -/
def actives (v : BrowserView) (window : WindowId) : List TabId := (v.active.get? window).getD []

variable (v : BrowserView) (tab tab' : TabId) (window window' : WindowId) (windows : List WindowView)

/-- The URL of a tab stands in its record. -/
lemma tabUrl?_eq : v.tabUrl? tab = (v.record tab).url := by
  rw [tabUrl?, record]
  cases v.tabs.get? tab <;> rfl

/-- The active tabs that a view gives are those that it keeps for the window and knows the URLs of. -/
lemma activeTabs_eq :
    v.activeTabs window = (v.actives window).filterMap fun tab => (v.tabUrl? tab).map fun url => ⟨tab, window, url⟩ :=
  rfl

/-! ## Updates -/

/-- An update gives its tab a URL, and a window if it names one, and leaves the other tabs alone. -/
lemma record_update (window? : Option WindowId) (url : String) :
    (v.update tab window? url).record tab' =
      if tab' = tab then ⟨some url, window? <|> (v.record tab).window⟩ else v.record tab' := by
  rw [record, update, Table.get?_put]
  split <;> rfl

/-- An update makes no tab active or inactive. -/
@[simp] lemma actives_update (window? : Option WindowId) (url : String) :
    (v.update tab window? url).actives window = v.actives window := rfl

/-! ## Activations -/

/-- An activation gives its tab the window, and leaves the other tabs alone. -/
lemma record_activate :
    (v.activate tab window).record tab' =
      if tab' = tab then { v.record tab with window := some window } else v.record tab' := by
  rw [record, activate, Table.get?_put]
  split <;> rfl

/-- An activation tells nothing of URLs. -/
@[simp] lemma tabUrl?_activate : (v.activate tab window).tabUrl? tab' = v.tabUrl? tab' := by
  rw [tabUrl?_eq, tabUrl?_eq, record_activate]
  split
  · next h => rw [h]
  · rfl

/-- An activated tab is dropped from the window where it was last reported, and from no other. -/
lemma actives_activate :
    (v.activate tab window).actives window' =
      if window' = window then [tab]
      else if (v.record tab).window = some window' then (v.actives window').filter (· ≠ tab)
      else v.actives window' := by
  rw [actives, activate, Table.get?_put]
  by_cases h : window' = window
  · rw [if_pos h, if_pos h, Option.getD_some]
  · rw [if_neg h, if_neg h]
    cases (v.record tab).window with
    | none => rfl
    | some previous =>
      by_cases hp : previous = window
      · have hn : ¬ some previous = some window' := fun e => h ((Option.some.inj e).symm.trans hp)
        simp only [if_pos hp, if_neg hn]
        rfl
      · simp only [if_neg hp, Table.get?_change]
        by_cases hw : window' = previous
        · rw [if_pos hw, if_pos (by rw [hw]), actives]
          cases v.active.get? window' <;> rfl
        · rw [if_neg hw, if_neg fun e => hw (Option.some.inj e).symm, actives]

/-! ## Changes of focus -/

/-- A change of focus leaves the tabs alone. -/
@[simp] lemma record_focus : (v.focus window).record tab = v.record tab := by
  rw [focus]
  split <;> rfl

/-- A change of focus makes no tab active or inactive. -/
@[simp] lemma actives_focus : (v.focus window').actives window = v.actives window := by
  rw [focus]
  split <;> rfl

/-- A window that comes into focus is the last one, and a loss of focus leaves it so. -/
lemma lastFocused_focus : (v.focus window).lastFocused = if 0 ≤ window then some window else v.lastFocused := by
  rw [focus]
  by_cases h : 0 ≤ window
  · rw [if_neg (Int64.not_lt.2 h), if_pos h]
  · rw [if_pos (Int64.not_le.1 h), if_neg h]

/-- A window has the focus unless its id is negative. -/
lemma hasFocus_focus : (v.focus window).hasFocus = decide (0 ≤ window) := by
  rw [focus]
  by_cases h : 0 ≤ window
  · rw [if_neg (Int64.not_lt.2 h), decide_eq_true h]
  · rw [if_pos (Int64.not_le.1 h), decide_eq_false h]

/-! ## Snapshots -/

/-- Where a snapshot lists a tab: each time with the window that it is listed in. -/
def listings (windows : List WindowView) (tab : TabId) : List (WindowView × TabView) :=
  windows.flatMap fun w => (w.tabs.filter (·.id = tab)).map fun t => (w, t)

/-- What a snapshot enters for a tab comes from where it lists the tab. -/
lemma filter_entries :
    (windows.flatMap entries).filter (fun entry => entry.1 = tab) =
      (listings windows tab).map fun (w, t) => (t.id, ⟨some t.url, some w.id⟩) := by
  rw [listings, List.filter_flatMap, List.map_flatMap]
  simp only [entries, List.filter_map, List.map_map, Function.comp_def]

/-- What a snapshot says of a tab is what it says last. -/
lemma record_ofWindows :
    (ofWindows windows).record tab =
      ((listings windows tab).getLast?.map fun (w, t) => ⟨some t.url, some w.id⟩).getD ⟨none, none⟩ := by
  have hl := Table.get?_ofList (windows.flatMap entries) tab
  rw [filter_entries, List.getLast?_map, Option.map_map] at hl
  exact congrArg (Option.getD · _) hl

/-- Without the windows, the listings of a tab are the tabs with its id. -/
lemma listings_snd : (listings windows tab).map Prod.snd = (windows.flatMap WindowView.tabs).filter (·.id = tab) := by
  rw [listings, List.map_flatMap, List.filter_flatMap]
  simp only [List.map_map, Function.comp_def, List.map_id']

/-- A snapshot gives a tab the URL with which it is listed last. -/
lemma tabUrl?_ofWindows :
    (ofWindows windows).tabUrl? tab =
      ((windows.flatMap WindowView.tabs).filter (·.id = tab)).getLast?.map TabView.url := by
  rw [tabUrl?_eq, record_ofWindows, ← listings_snd, List.getLast?_map]
  cases (listings windows tab).getLast? <;> rfl

/-- A snapshot gives a tab the window in which it is listed last. -/
lemma window_ofWindows :
    ((ofWindows windows).record tab).window = (listings windows tab).getLast?.map fun (w, _) => w.id := by
  rw [record_ofWindows]
  cases (listings windows tab).getLast? <;> rfl

/-- The active tabs of a window of a snapshot, in the order in which they are listed. -/
lemma actives_ofWindows :
    (ofWindows windows).actives window =
      (windows.filter (·.id = window)).flatMap fun w => (w.tabs.filter TabView.active).map TabView.id := by
  have added (active : Table WindowId (List TabId)) :
      ((windows.foldl addActive active).get? window).getD [] = (active.get? window).getD [] ++
        (windows.filter (·.id = window)).flatMap fun w => (w.tabs.filter TabView.active).map TabView.id := by
    induction windows generalizing active with
    | nil => simp
    | cons w windows ih =>
      rw [List.foldl_cons, ih, addActive, Table.get?_put]
      by_cases h : window = w.id
      · rw [if_pos h, List.filter_cons_of_pos (by simp [h])]
        simp [h]
      · rw [if_neg h, List.filter_cons_of_neg (by simpa using Ne.symm h)]
  exact added []

/-- After a snapshot a window has the focus if one is marked. -/
lemma hasFocus_ofWindows : (ofWindows windows).hasFocus = windows.any WindowView.focused := by
  have marked : (ofWindows windows).hasFocus = (windows.filter WindowView.focused).getLast?.isSome := Option.isSome_map ..
  rw [marked, List.getLast?_filter, List.isSome_find?, List.any_reverse]

end BrowserView

end FocusJournal
