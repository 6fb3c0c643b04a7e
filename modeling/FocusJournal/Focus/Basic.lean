import FocusJournal.Browser.View
import FocusJournal.Browser.Platform

/-!
# Focus

What a change of focus means for the recording. An event leads to a directive. To switch to a window the engine is
started first; when it has started, the active tabs of the window are settled. Every switch and every pause moves the
generation on, so that a start asked for before is known to be superseded.

* `Directive.ofEvent` decides what an event leads to.
* `Focus.settle` completes a switch.
-/

namespace FocusJournal

/-- Something that may move the recording. -/
inductive FocusEvent where
  | tabUpdated (tab : TabId) (url : String)
  | tabActivated (tab : TabId) (window : WindowId)
  | windowFocusChanged (window : WindowId)
  /-- Time to look where the focus is. -/
  | pollTick
  deriving DecidableEq

/-- The focus event in a notification. A snapshot only refreshes the view. -/
def FocusEvent.ofNotification? : Notification → Option FocusEvent
  | .tabUpdated tab _ url => some (.tabUpdated tab url)
  | .tabActivated tab window => some (.tabActivated tab window)
  | .windowFocusChanged window => some (.windowFocusChanged window)
  | .snapshot _ => none

/-- What is to be done about an event. -/
inductive Directive where
  | ignore
  | switchUrl (url : String)
  /-- Start the engine, then settle on the active tab of the window. -/
  | switchToWindow (window : WindowId)
  | pause
  deriving DecidableEq

namespace Directive

/-- The focus on a window, or on none where there is no window or its id is below zero. -/
def ofFocus : Option WindowId → Directive
  | none => .pause
  | some window => if window < 0 then .pause else .switchToWindow window

/-- What an event leads to: nothing unless the user wants to be tracked. -/
def ofEvent (armed : Bool) (reliability : Reliability) (view : BrowserView) (event : FocusEvent) : Directive :=
  if armed then
    match event with
    | .tabUpdated _ url => .switchUrl url
    | .tabActivated tab _ =>
      match view.tabUrl? tab with
      | some url => .switchUrl url
      | none => .ignore
    | .windowFocusChanged window => ofFocus (some window)
    | .pollTick => if reliability.needsPolling then ofFocus view.focusedWindow? else .ignore
  else .ignore

end Directive

/-- Where the recording is thought to be. -/
inductive FocusState where
  | paused
  | tracking (window : WindowId)
  deriving DecidableEq

/-- How a switch to a window came out. -/
inductive Settlement where
  | tracking (window : WindowId) (url : String)
  /-- The window has no active tab, or several. -/
  | anomaly (window : WindowId) (count : Nat)
  deriving DecidableEq

/-- Where the recording is thought to be, and how many switches and pauses there have been. -/
structure Focus where
  state : FocusState
  generation : Nat
  deriving DecidableEq

namespace Focus

/-- Nothing is recorded yet. -/
def initial : Focus := ⟨.paused, 0⟩

/-- The start of a switch, whose generation is the new one. -/
def beginSwitch (f : Focus) : Focus := { f with generation := f.generation + 1 }

/-- Whether no switch and no pause came after a generation. -/
def isCurrent (f : Focus) (generation : Nat) : Bool := f.generation = generation

/-- How a switch to a window comes out with these active tabs. -/
def outcome (window : WindowId) : List ActiveTab → Settlement
  | [tab] => .tracking window tab.url
  | tabs => .anomaly window tabs.length

/-- A switch is complete. -/
def settle (f : Focus) : Settlement → Focus
  | .tracking window _ => { f with state := .tracking window }
  | .anomaly _ _ => { f with state := .paused }

/-- The recording stops. -/
def pause (f : Focus) : Focus := ⟨.paused, f.generation + 1⟩

end Focus

end FocusJournal
