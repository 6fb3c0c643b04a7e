import FocusJournal.Table
import FocusJournal.Message.Notification

/-!
# The view of the browser

The browser cannot be asked, so a view of it is built from its notifications. A snapshot replaces the whole view; every
other notification changes what it speaks of.

* `BrowserView.observe` applies a notification.
* `tabUrl?`, `activeTabs` and `lastFocused?` are the questions that a view answers.
-/

namespace FocusJournal

/-- What is known of a tab. -/
structure TabRecord where
  url : Option String
  window : Option WindowId
  deriving DecidableEq

/-- An active tab whose URL is known. -/
structure ActiveTab where
  id : TabId
  window : WindowId
  url : String
  deriving DecidableEq

/-- The window that was focused last, and whether it still is. -/
structure FocusedWindow where
  id : WindowId
  focused : Bool
  deriving DecidableEq

/-- What the notifications so far say of the browser. -/
structure BrowserView where
  tabs : Table TabId TabRecord
  /-- The active tabs of each window, in the order in which they became active. -/
  active : Table WindowId (List TabId)
  lastFocused : Option WindowId
  hasFocus : Bool
  deriving DecidableEq

namespace BrowserView

/-- Nothing is known yet. -/
def empty : BrowserView := ⟨[], [], none, false⟩

/-- What is known of a tab, which may be nothing. -/
def record (v : BrowserView) (tab : TabId) : TabRecord := (v.tabs.get? tab).getD ⟨none, none⟩

/-- The URL of a tab. -/
def tabUrl? (v : BrowserView) (tab : TabId) : Option String := (v.tabs.get? tab).bind TabRecord.url

/-- The active tabs of a window whose URLs are known. -/
def activeTabs (v : BrowserView) (window : WindowId) : List ActiveTab :=
  ((v.active.get? window).getD []).filterMap fun tab => (v.tabUrl? tab).map fun url => ⟨tab, window, url⟩

/-- The window that was focused last. -/
def lastFocused? (v : BrowserView) : Option FocusedWindow := v.lastFocused.map fun id => ⟨id, v.hasFocus⟩

/-- The window that is focused now. -/
def focusedWindow? (v : BrowserView) : Option WindowId := if v.hasFocus then v.lastFocused else none

/-- A tab shows a URL, perhaps in a window that is named. -/
def update (v : BrowserView) (tab : TabId) (window : Option WindowId) (url : String) : BrowserView :=
  { v with tabs := v.tabs.put tab ⟨some url, window <|> (v.record tab).window⟩ }

/-- A tab becomes the only active one of a window, and is no longer active in the window it was in. -/
def activate (v : BrowserView) (tab : TabId) (window : WindowId) : BrowserView :=
  let left := match (v.record tab).window with
    | some previous =>
      if previous = window then v.active else v.active.change previous fun tabs => tabs.filter fun t => t ≠ tab
    | none => v.active
  { v with
    tabs := v.tabs.put tab { v.record tab with window := some window }
    active := left.put window [tab] }

/-- The focus moves to a window, or away from all where the id is below zero. -/
def focus (v : BrowserView) (window : WindowId) : BrowserView :=
  if window < 0 then { v with hasFocus := false } else { v with lastFocused := some window, hasFocus := true }

/-- What a window of a snapshot says of its tabs. -/
def entries (w : WindowView) : List (TabId × TabRecord) := w.tabs.map fun t => (t.id, ⟨some t.url, some w.id⟩)

/-- The active tabs of a window of a snapshot come after those listed for its id before. -/
def addActive (active : Table WindowId (List TabId)) (w : WindowView) : Table WindowId (List TabId) :=
  active.put w.id ((active.get? w.id).getD [] ++ (w.tabs.filter TabView.active).map TabView.id)

/-- The last window of a snapshot that is marked as focused. -/
def focusedIn (windows : List WindowView) : Option WindowId :=
  ((windows.filter WindowView.focused).getLast?).map WindowView.id

/-- The view that a snapshot gives. -/
def ofWindows (windows : List WindowView) : BrowserView where
  tabs := Table.ofList (windows.flatMap entries)
  active := windows.foldl addActive []
  lastFocused := focusedIn windows
  hasFocus := (focusedIn windows).isSome

/-- The view after a notification. -/
def observe (v : BrowserView) : Notification → BrowserView
  | .tabUpdated tab window url => v.update tab window url
  | .tabActivated tab window => v.activate tab window
  | .windowFocusChanged window => v.focus window
  | .snapshot windows => ofWindows windows

end BrowserView

end FocusJournal
