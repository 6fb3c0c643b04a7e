import FocusJournal.Proofs.Browser.Checked
import FocusJournal.Proofs.Browser.Whereabouts
import FocusJournal.Proofs.Reporter.Switching

/-!
# Where URLs come from

A reporter knows of the browser what was reported before (`Reporter.view_before`), so a URL that it hands to the engine
was either in the very event that it handles or is recalled: it was told of the tab since the last snapshot, or else
listed there. A tab update has its URL checked, a snapshot has not. A tab whose listed URL is blank and which was not
updated since is `ListedBlank`, and `urls_nonblank_iff` says that a blank URL is handed on only where such a tab is
recalled.
-/

namespace FocusJournal

/-- The notification in an input. -/
def Input.notification? : Input → Option Notification
  | .notification n => some n
  | _ => none

/-- What was reported of the browser in the course of deeds. -/
def noted (h : List Deed) : List Notification := h.filterMap fun d => d.input.notification?

/-- What was noted is what came in with an input. -/
lemma mem_noted {h : List Deed} {n : Notification} : n ∈ noted h ↔ ∃ d ∈ h, d.input = .notification n := by
  have noted_by (i : Input) : i.notification? = some n ↔ i = .notification n := by
    cases i <;> simp [Input.notification?]
  simp only [noted, List.mem_filterMap, noted_by]

/-- An input that the browser or the clock can bring about: notifications were parsed, and no other event carries a
blank URL. -/
def Input.Sensible : Input → Prop
  | .notification n => ∃ j, Notification.parse j = .ok n
  | .focus (.tabUpdated _ url) => Text.isBlankString url = false
  | _ => True

/-- A deed in which the URL of a tab is recalled: the tab is activated, or it is the active one of the window that is
settled. -/
inductive Deed.Recalls (d : Deed) : TabId → Prop where
  | activated {tab window} :
    d.input.event? = some (.tabActivated tab window) →
    d.before.armed = true →
    Recalls d tab
  | settled {origin window tab} :
    d.input = .startAcked true origin →
    d.before.settling? true origin = some window →
    d.before.view.activeTabs window = [tab] →
    Recalls d tab.id

/-- All that is known of the URL of a tab is that the last snapshot lists a blank one. -/
structure BrowserView.ListedBlank (h : List Notification) (tab : TabId) : Prop where
  untold : ∀ n ∈ sinceSnapshot h, n.url? tab = none
  blank : ∃ t, (((lastSnapshot h).flatMap WindowView.tabs).filter (·.id = tab)).getLast? = some t ∧
    Text.isBlankString t.url = true

/-! ## Views -/

/-- The URL in a notification that makes sense is not blank. -/
lemma Notification.url_of_check {n : Notification} {tab url} (hn : n.check = .ok ()) (hu : n.url? tab = some url) :
    Text.isBlankString url = false := by
  cases n with
  | tabUpdated t window? url' =>
    simp only [url?] at hu
    split at hu
    · cases hu
      obtain ⟨_, hn⟩ := Refusal.bind_eq_ok.1 hn
      have passed :
          (if Text.isBlankString url then .error (.blankField "url") else .ok () : Except Refusal Unit) = .ok () := by
        cases window? with
        | none => exact hn
        | some window => exact (Refusal.bind_eq_ok.1 hn).2
      split at passed
      · cases passed
      · next hb => exact eq_false_of_ne_true hb
    · cases hu
  | _ => cases hu

namespace BrowserView

variable {h : List Notification} {tab : TabId}

/-- Of notifications that make sense only a snapshot gives a tab a blank URL. -/
lemma listedBlank_iff (checked : ∀ n ∈ h, n.check = .ok ()) :
    ListedBlank h tab ↔ ∃ url, (ofHistory h).tabUrl? tab = some url ∧ Text.isBlankString url = true := by
  have recalled := (recalls_tabUrl tab).ofHistory h
  constructor
  · rintro ⟨untold, t, ht, hb⟩
    rw [List.filterMap_eq_nil_iff.2 untold, ht] at recalled
    exact ⟨t.url, recalled, hb⟩
  · rintro ⟨url, hu, hb⟩
    rw [recalled] at hu
    cases ht : ((sinceSnapshot h).filterMap (Notification.url? tab)).getLast? with
    | some told =>
      rw [ht] at hu
      cases hu
      obtain ⟨n, hn, hut⟩ := List.mem_filterMap.1 (List.mem_of_getLast? ht)
      have named := Notification.url_of_check (checked n ((List.rtakeWhile_suffix _ h).subset hn)) hut
      rw [hb] at named
      cases named
    | none =>
      rw [ht, Option.none_or] at hu
      obtain ⟨t, htab, rfl⟩ := Option.map_eq_some_iff.1 hu
      refine ⟨List.filterMap_eq_nil_iff.1 (List.getLast?_eq_none_iff.1 ht), t, htab, hb⟩

/-- An active tab is given with the URL that is known of it. -/
lemma tabUrl?_of_activeTabs {v : BrowserView} {window : WindowId} {t : ActiveTab} (ht : t ∈ v.activeTabs window) :
    v.tabUrl? t.id = some t.url := by
  rw [activeTabs_eq] at ht
  obtain ⟨tab, _, htab⟩ := List.mem_filterMap.1 ht
  obtain ⟨url, hu, rfl⟩ := Option.map_eq_some_iff.1 htab
  exact hu

end BrowserView

/-! ## Reporters -/

namespace Reporter

variable {r : Reporter} {line : List (Bool × Input)} {h₁ h₂ : List Deed} {d : Deed}

/-- A look changes the view by what the input notes of the browser. -/
lemma look_view (r : Reporter) (i : Input) : (r.look i).view = i.notification?.elim r.view r.view.observe := by
  cases i <;> rfl

/-- The input of a deed comes from the line. -/
lemma mem_line_of_mem_deeds (hd : d ∈ r.deeds line) : (d.recording, d.input) ∈ line := by
  induction line generalizing r with
  | nil => cases hd
  | cons x rest ih =>
    rcases List.mem_cons.1 hd with rfl | hd
    · exact List.mem_cons_self ..
    · exact List.mem_cons_of_mem _ (ih hd)

/-- What is known of the browser is what was reported so far. -/
lemma view_before (hd : r.deeds line = h₁ ++ d :: h₂) :
    d.before.view = (noted h₁).foldl BrowserView.observe r.view := by
  induction h₁ generalizing r line with
  | nil =>
    cases line with
    | nil => cases hd
    | cons x rest =>
      obtain ⟨rfl, _⟩ := List.cons.inj hd
      rfl
  | cons e h₁ ih =>
    cases line with
    | nil => cases hd
    | cons x rest =>
      obtain ⟨rfl, later⟩ := List.cons.inj hd
      rw [ih later, Deed.reaction.view_eq, look_view, noted, noted, List.filterMap_cons]
      cases Input.notification? _ <;> rfl

/-- When it handles an input, a reporter has seen what the input says as well. -/
lemma view_look {platform registered} (hd : (initial platform registered).deeds line = h₁ ++ d :: h₂) :
    (d.before.look d.input).view = BrowserView.ofHistory (noted (h₁ ++ [d])) := by
  have known : d.before.view = BrowserView.ofHistory (noted h₁) := view_before hd
  rw [look_view, known, noted, noted, List.filterMap_append, List.filterMap_cons]
  cases d.input.notification? with
  | none => rw [List.filterMap_nil, List.append_nil]; rfl
  | some n => exact (BrowserView.ofHistory_concat _ n).symm

end Reporter

/-- A directive to switch to a URL has it from the event or recalls it. -/
lemma Reporter.directive_eq_switchUrl {r : Reporter} {event url} :
    r.directive event = .switchUrl url ↔ r.armed = true ∧
      ((∃ tab, event = .tabUpdated tab url) ∨ ∃ tab window, event = .tabActivated tab window ∧
        r.view.tabUrl? tab = some url) := by
  cases ha : r.armed with
  | false => simp [directive_unarmed ha]
  | true =>
    simp only [directive, ha, true_and]
    cases event with
    | tabUpdated tab url' => simp [Directive.ofEvent]
    | tabActivated tab window =>
      cases hu : r.view.tabUrl? tab <;> simp [Directive.ofEvent, hu]
    | windowFocusChanged window =>
      rcases Directive.ofFocus_cases (some window) with h | ⟨_, h⟩ <;> simp [Directive.ofEvent, h]
    | pollTick =>
      rcases Directive.ofFocus_cases r.view.focusedWindow? with h | ⟨_, h⟩ <;>
        cases hp : r.platform.reliability.needsPolling <;> simp [Directive.ofEvent, h, hp]

namespace Deed

variable {d : Deed} {tab : TabId} {url : String}

/-- A URL that is known of a recalled tab is switched to. -/
lemma Recalls.switchUrl (re : d.Recalls tab) (hu : (d.before.look d.input).view.tabUrl? tab = some url) :
    .switchUrl url ∈ d.calls := by
  cases re with
  | @activated _ window he ha =>
    have hd : (d.before.look d.input).directive (.tabActivated tab window) = .switchUrl url :=
      Reporter.directive_eq_switchUrl.2 ⟨by simpa using ha, .inr ⟨tab, window, rfl, hu⟩⟩
    rw [d.reaction.of_event he, hd]
    exact List.mem_singleton_self _
  | @settled origin window t hi hw ht =>
    have known := BrowserView.tabUrl?_of_activeTabs (ht ▸ List.mem_singleton_self t)
    rw [hi] at hu
    cases hu.symm.trans known
    have re := d.reaction
    rw [hi] at re
    obtain ⟨t', ht', _, hc⟩ | ⟨hn, _⟩ := re.of_settling hw
    · cases ht.symm.trans ht'
      rw [hc]
      exact List.mem_singleton_self _
    · rw [ht] at hn
      exact absurd rfl hn

/-- A URL that is handed to the engine is the one in the event that is handled, or it is recalled. -/
lemma recalls_of_switchUrl (hc : .switchUrl url ∈ d.calls) :
    (∃ tab, d.input.event? = some (.tabUpdated tab url)) ∨
      ∃ tab, d.Recalls tab ∧ (d.before.look d.input).view.tabUrl? tab = some url := by
  have re := d.reaction
  generalize hi : d.input = i at re
  generalize hr : d.after = r' at re
  generalize hcs : d.calls = calls at re hc
  cases re with
  | @switch _ event url' he hd =>
    cases List.mem_singleton.1 hc
    obtain ⟨ha, ⟨tab, rfl⟩ | ⟨tab, window, rfl, hu⟩⟩ := Reporter.directive_eq_switchUrl.1 hd
    · exact .inl ⟨tab, he⟩
    · exact .inr ⟨tab, .activated (by rw [hi]; exact he) (by simpa using ha), hu⟩
  | @settled origin window t hw ht =>
    cases List.mem_singleton.1 hc
    exact .inr ⟨t.id, .settled hi hw ht, BrowserView.tabUrl?_of_activeTabs (ht ▸ List.mem_singleton_self t)⟩
  | _ => simp at hc

end Deed

/-- The URL in a sensible event is not blank. -/
lemma Input.Sensible.url_of_event {i : Input} {tab url} (hs : i.Sensible) (he : i.event? = some (.tabUpdated tab url)) :
    Text.isBlankString url = false := by
  cases i with
  | notification n =>
    obtain ⟨j, hj⟩ := hs
    cases n with
    | tabUpdated t window? url' =>
      cases he
      exact Notification.url_of_check (Notification.check_of_parse hj) (if_pos rfl)
    | _ => cases he
  | focus event =>
    cases he
    exact hs
  | _ => cases he

/-- What is noted of sensible inputs was checked. -/
lemma check_of_noted {h : List Deed} (sensible : ∀ d ∈ h, d.input.Sensible) :
    ∀ n ∈ noted h, n.check = .ok () := by
  intro n hn
  obtain ⟨d, hd, hi⟩ := mem_noted.1 hn
  have hs := sensible d hd
  rw [hi] at hs
  obtain ⟨j, hj⟩ := hs
  exact Notification.check_of_parse hj

/-- A deed hands a blank URL to the engine if and only if it recalls a tab that is listed with one. -/
lemma Reporter.blank_iff {platform registered line} {h₁ h₂ : List Deed} {d : Deed}
    (sensible : ∀ x ∈ line, x.2.Sensible) (hd : (initial platform registered).deeds line = h₁ ++ d :: h₂) :
    (∃ url, .switchUrl url ∈ d.calls ∧ Text.isBlankString url = true) ↔
      ∃ tab, d.Recalls tab ∧ BrowserView.ListedBlank (noted (h₁ ++ [d])) tab := by
  have all : ∀ e ∈ (initial platform registered).deeds line, e.input.Sensible :=
    fun e he => sensible _ (mem_line_of_mem_deeds he)
  rw [hd] at all
  -- The reporter has looked at the input when it recalls a URL, so what the input notes counts too.
  have checked : ∀ n ∈ noted (h₁ ++ [d]), n.check = .ok () :=
    check_of_noted fun e he => all e (by simp only [List.mem_append, List.mem_cons] at he ⊢; tauto)
  constructor
  · rintro ⟨url, hc, hb⟩
    rcases Deed.recalls_of_switchUrl hc with ⟨tab, he⟩ | ⟨tab, re, hu⟩
    · rw [(all d (by simp)).url_of_event he] at hb
      cases hb
    · rw [view_look hd] at hu
      exact ⟨tab, re, (BrowserView.listedBlank_iff checked).2 ⟨url, hu, hb⟩⟩
  · rintro ⟨tab, re, listed⟩
    obtain ⟨url, hu, hb⟩ := (BrowserView.listedBlank_iff checked).1 listed
    rw [← view_look hd] at hu
    exact ⟨url, re.switchUrl hu, hb⟩

/-- With sensible inputs every URL that is handed to the engine has a character that is not blank, if and only if no tab
is recalled for which only the last snapshot tells a URL, and tells a blank one. -/
theorem urls_nonblank_iff {platform registered line} (sensible : ∀ x ∈ line, x.2.Sensible) :
    let deeds := (Reporter.initial platform registered).deeds line
    (∀ d ∈ deeds, ∀ url, .switchUrl url ∈ d.calls → ∃ c ∈ url.toList, Text.isBlank c = false) ↔
      ∀ h₁ d h₂ tab, deeds = h₁ ++ d :: h₂ → d.Recalls tab → ¬ BrowserView.ListedBlank (noted (h₁ ++ [d])) tab := by
  intro deeds
  simp only [← Text.isBlankString_eq_false]
  constructor
  · intro nonblank h₁ d h₂ tab hd re listed
    obtain ⟨url, hc, hb⟩ := (Reporter.blank_iff sensible hd).2 ⟨tab, re, listed⟩
    rw [nonblank d (hd ▸ List.mem_append_right _ (List.mem_cons_self ..)) url hc] at hb
    cases hb
  · intro unlisted d hm url hc
    obtain ⟨h₁, h₂, hd⟩ := List.append_of_mem hm
    by_contra hb
    obtain ⟨tab, re, listed⟩ := (Reporter.blank_iff sensible hd).1 ⟨url, hc, eq_true_of_ne_false hb⟩
    exact unlisted h₁ d h₂ tab hd re listed

/-- A tab is listed before it has a URL, and then it is activated. -/
def newTab : List (Bool × Input) := [
  (false, .control .startTracking none 0),
  (true, .startAcked true .user),
  (true, .notification (.snapshot [⟨1, true, [⟨7, "", true⟩]⟩])),
  (true, .notification (.tabActivated 7 1))]

/-- The browser can bring about every input of the line. -/
lemma newTab_sensible : ∀ x ∈ newTab, x.2.Sensible := by
  simp only [newTab, List.forall_mem_cons]
  have listed : Input.Sensible (.notification (.snapshot [⟨1, true, [⟨7, "", true⟩]⟩])) :=
    ⟨(Notification.snapshot [⟨1, true, [⟨7, "", true⟩]⟩]).toJson, rfl⟩
  have activated : Input.Sensible (.notification (.tabActivated 7 1)) := ⟨(Notification.tabActivated 7 1).toJson, rfl⟩
  exact ⟨trivial, trivial, listed, activated, nofun⟩

/-- The engine is asked to switch to a URL without characters. -/
lemma newTab_blank {platform registered} :
    ∃ d ∈ (Reporter.initial platform registered).deeds newTab, .switchUrl "" ∈ d.calls :=
  ⟨_, .tail _ (.tail _ (.tail _ (.head _))), List.mem_singleton_self _⟩

/-- So there is a tab that is recalled though it is listed with a blank URL. -/
theorem urls_nonblank_iff_newTab :
    ∃ h₁ d h₂ tab, (Reporter.initial ⟨"linux"⟩ true).deeds newTab = h₁ ++ d :: h₂ ∧ d.Recalls tab ∧
      BrowserView.ListedBlank (noted (h₁ ++ [d])) tab := by
  by_contra unlisted
  have nonblank := (@urls_nonblank_iff ⟨"linux"⟩ true newTab newTab_sensible).2
    fun h₁ d h₂ tab hd re listed => unlisted ⟨h₁, d, h₂, tab, hd, re, listed⟩
  obtain ⟨d, hd, hc⟩ := newTab_blank
  obtain ⟨c, hm, _⟩ := nonblank d hd "" hc
  cases hm

/-- The engine can be given a blank URL, though every input makes sense. -/
theorem not_always_nonblank :
    ¬ ∀ {platform registered line}, (∀ x ∈ line, x.2.Sensible) →
      ∀ d ∈ (Reporter.initial platform registered).deeds line, ∀ url, .switchUrl url ∈ d.calls →
        ∃ c ∈ url.toList, Text.isBlank c = false := by
  intro nonblank
  obtain ⟨d, hd, hc⟩ := newTab_blank
  obtain ⟨c, hm, _⟩ := @nonblank ⟨"linux"⟩ true newTab newTab_sensible d hd "" hc
  cases hm

end FocusJournal
