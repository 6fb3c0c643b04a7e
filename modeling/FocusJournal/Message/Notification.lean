import FocusJournal.Json.Format
import FocusJournal.Message.Refusal
import FocusJournal.Text.Blank

/-!
# Notifications

What the browser reports: a tab has a new URL, a tab was activated, the focus moved to another window, or the whole view
of the browser. A window with an id below zero stands for no window.

* `Notification.toJson` and `Notification.ofJson` are the wire form and its reading.
* `Notification.check` refuses ids and texts that make no sense.
-/

namespace FocusJournal

/-- The number of a tab. -/
abbrev TabId := Int64

/-- The number of a window; below zero for no window. -/
abbrev WindowId := Int64

/-- A tab in a view of the browser. -/
structure TabView where
  id : TabId
  url : String
  active : Bool
  deriving DecidableEq

/-- A window in a view of the browser. -/
structure WindowView where
  id : WindowId
  focused : Bool
  tabs : List TabView
  deriving DecidableEq

/-- What the browser reports. -/
inductive Notification where
  /-- A tab shows a URL. -/
  | tabUpdated (tab : TabId) (window : Option WindowId) (url : String)
  /-- A tab became the active one of its window. -/
  | tabActivated (tab : TabId) (window : WindowId)
  /-- The focus moved to a window, or away from all. -/
  | windowFocusChanged (window : WindowId)
  /-- All windows with their tabs. -/
  | snapshot (windows : List WindowView)
  deriving DecidableEq

/-- A number on the wire. -/
def Json.ofInt64 (n : Int64) : Json := .integer n.toInt

namespace TabView

/-- A tab on the wire. -/
def toJson (t : TabView) : Json :=
  .object [("id", .ofInt64 t.id), ("url", .string t.url), ("active", .bool t.active)]

/-- The fields of a tab on the wire. -/
def record : Record TabView where
  title := "struct TabView"
  blank := ⟨0, "", false⟩
  fields := [
    .needed "id" .int64 fun n t => { t with id := n },
    .needed "url" .string fun s t => { t with url := s },
    .free "active" .bool fun b t => { t with active := b }]
  closed := false

end TabView

namespace WindowView

/-- A window on the wire. -/
def toJson (w : WindowView) : Json :=
  .object [("id", .ofInt64 w.id), ("focused", .bool w.focused), ("tabs", .array (w.tabs.map TabView.toJson))]

/-- The fields of a window on the wire. -/
def record : Record WindowView where
  title := "struct WindowView"
  blank := ⟨0, false, []⟩
  fields := [
    .needed "id" .int64 fun n w => { w with id := n },
    .free "focused" .bool fun b w => { w with focused := b },
    .free "tabs" (.list TabView.record.format) fun ts w => { w with tabs := ts }]
  closed := false

/-- The windows of a browser. -/
def listFormat : Format (List WindowView) := .list record.format

end WindowView

namespace Notification

/-- The kinds of notification, by their names on the wire. -/
def kinds : List String := ["tab_updated", "tab_activated", "window_focus_changed", "snapshot"]

/-- The name of the kind on the wire. -/
def kind : Notification → String
  | tabUpdated .. => "tab_updated"
  | tabActivated .. => "tab_activated"
  | windowFocusChanged .. => "window_focus_changed"
  | snapshot .. => "snapshot"

/-- The key under which the kind is given. -/
def tag : String := "event"

/-- A notification on the wire. -/
def toJson (n : Notification) : Json :=
  let fields : List (String × Json) :=
    match n with
    | tabUpdated tab none url => [("tab_id", .ofInt64 tab), ("url", .string url)]
    | tabUpdated tab (some window) url =>
      [("tab_id", .ofInt64 tab), ("window_id", .ofInt64 window), ("url", .string url)]
    | tabActivated tab window => [("tab_id", .ofInt64 tab), ("window_id", .ofInt64 window)]
    | windowFocusChanged window => [("window_id", .ofInt64 window)]
    | snapshot windows => [("windows", .array (windows.map WindowView.toJson))]
  .object ((tag, .string n.kind) :: fields)

/-- What a tab update carries. -/
structure Update where
  tab : TabId
  window : Option WindowId
  url : String

/-- The fields of a tab update. -/
def updateRecord : Record Update where
  title := "struct variant PlatformNotification::TabUpdated"
  blank := ⟨0, none, ""⟩
  fields := [
    .needed "tab_id" .int64 fun n u => { u with tab := n },
    .free "window_id" (.optional .int64) fun n u => { u with window := n },
    .needed "url" .string fun s u => { u with url := s }]
  closed := false

/-- The fields of a tab activation: the tab and its window. -/
def activationRecord : Record (TabId × WindowId) where
  title := "struct variant PlatformNotification::TabActivated"
  blank := (0, 0)
  fields := [
    .needed "tab_id" .int64 fun n a => (n, a.2),
    .needed "window_id" .int64 fun n a => (a.1, n)]
  closed := false

/-- The field of a focus change. -/
def focusRecord : Record WindowId where
  title := "struct variant PlatformNotification::WindowFocusChanged"
  blank := 0
  fields := [.needed "window_id" .int64 fun n _ => n]
  closed := false

/-- The field of a snapshot. -/
def snapshotRecord : Record (List WindowView) where
  title := "struct variant PlatformNotification::Snapshot"
  blank := []
  fields := [.needed "windows" WindowView.listFormat fun ws _ => ws]
  closed := false

/-- A notification of a kind, from a way to read its record. -/
def ofKind (kind : String) (read : {α : Type} → Record α → Except Mismatch α) : Except Mismatch Notification :=
  if kind = "tab_updated" then (read updateRecord).map fun u => tabUpdated u.tab u.window u.url
  else if kind = "tab_activated" then (read activationRecord).map fun a => tabActivated a.1 a.2
  else if kind = "window_focus_changed" then (read focusRecord).map windowFocusChanged
  else if kind = "snapshot" then (read snapshotRecord).map snapshot
  else .error (.unknownVariant kind kinds)

/-- The kind that a tag gives. -/
def kindOf : Json → Except Mismatch String
  | .string s => if kinds.contains s then .ok s else .error (.unknownVariant s kinds)
  | j => .error (.kind (.ofJson j) "variant identifier")

/-- The notification that a value gives: an object with a tag, or a list that begins with it. -/
def ofJson : Json → Except Mismatch Notification
  | .object members =>
    match members.lookup tag with
    | none => .error (.missing tag)
    | some j =>
      match kindOf j with
      | .error m => .error m
      | .ok kind => ofKind kind fun r => r.ofMembers (members.filter fun member => member.1 != tag)
  | .array [] => .error (.missing tag)
  | .array (j :: items) =>
    match kindOf j with
    | .error m => .error m
    | .ok kind => ofKind kind fun r => r.ofItems items
  | j => .error (.kind (.ofJson j) "internally tagged enum PlatformNotification")

/-- Refuses a tab with an id below zero. -/
def checkTab (tab : TabId) : Except Refusal Unit := if tab < 0 then .error .negativeTab else .ok ()

/-- Refuses a window with an id below zero. -/
def checkWindow (window : WindowId) : Except Refusal Unit := if window < 0 then .error .negativeWindow else .ok ()

/-- Refuses a window of a snapshot with an id below zero, its own or one of its tabs. -/
def checkView (w : WindowView) : Except Refusal Unit := do
  checkWindow w.id
  w.tabs.forM fun t => checkTab t.id

/-- Refuses a notification with an id or a text that makes no sense; no window at all may have the focus. -/
def check : Notification → Except Refusal Unit
  | tabUpdated tab window url => do
    checkTab tab
    match window with
    | none => .ok ()
    | some window => checkWindow window
    if Text.isBlankString url then .error (.blankField "url") else .ok ()
  | tabActivated tab window => do
    checkTab tab
    checkWindow window
  | windowFocusChanged _ => .ok ()
  | snapshot windows => do
    if 1 < windows.countP WindowView.focused then .error .severalFocused else .ok ()
    windows.forM checkView

/-- The notification that a value gives, if it makes sense. -/
def parse (j : Json) : Except Refusal Notification :=
  match ofJson j with
  | .error m => .error (.malformedNotification m)
  | .ok n => (n.check).map fun _ => n

end Notification

end FocusJournal
