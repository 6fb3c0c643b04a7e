import FocusJournal.Focus.Basic
import FocusJournal.Message.Control
import FocusJournal.Message.Response

/-!
# The reporter

One owner of all state. Requests, notifications, ticks and the engine's acknowledgments are inputs that it handles one
by one; handling an input changes its state and has effects, which are calls of the engine and answers to those who
asked. An acknowledgment carries what it was asked for with, so it can be matched however late it comes.

* `Reporter.handle` handles an input.
* `Reporter.settling?` tells which window an acknowledgment settles.
-/

namespace FocusJournal

/-- The number of one who waits for answers. -/
abbrev Asker := Nat

/-- Who asked the engine to start. -/
inductive StartOrigin where
  | user
  | window (window : WindowId) (generation : Nat)
  deriving DecidableEq

/-- What the reporter handles. -/
inductive Input where
  | notification (n : Notification)
  | focus (event : FocusEvent)
  | control (control : Control) (id : Option String) (asker : Asker)
  | startAcked (success : Bool) (origin : StartOrigin)
  | loginAcked (success : Bool) (id : Option String) (asker : Asker)
  deriving DecidableEq

/-- What the reporter asks of the engine. Starts and logins are acknowledged. -/
inductive EngineCall where
  | start (origin : StartOrigin)
  | stop
  | switchUrl (url : String)
  | login (credentials : Credentials) (id : Option String) (asker : Asker)
  deriving DecidableEq

/-- What handling an input does outside the reporter. -/
inductive Effect where
  | call (c : EngineCall)
  | answer (asker : Asker) (response : Response)

/-- The state of the reporter. -/
structure Reporter where
  platform : Platform
  /-- The engine's last acknowledgment was a success, and no stop was asked for since. -/
  enabled : Bool
  /-- The user wants to be tracked. -/
  armed : Bool
  /-- A login succeeded. -/
  loggedIn : Bool
  focus : Focus
  view : BrowserView

namespace Reporter

/-- A reporter at its start, with the login that the engine restored. -/
def initial (platform : Platform) (registered : Bool) : Reporter :=
  ⟨platform, false, false, registered, .initial, .empty⟩

/-- What an event leads to now. -/
def directive (r : Reporter) (event : FocusEvent) : Directive :=
  .ofEvent r.armed r.platform.reliability r.view event

/-- Handles a focus event. -/
def onFocus (r : Reporter) (event : FocusEvent) : Reporter × List Effect :=
  match r.directive event with
  | .ignore => (r, [])
  | .switchUrl url => (r, [.call (.switchUrl url)])
  | .switchToWindow window =>
    let focus := r.focus.beginSwitch
    ({ r with focus := focus }, [.call (.start (.window window focus.generation))])
  | .pause => ({ r with focus := r.focus.pause, enabled := false }, [.call .stop])

/-- The window that the acknowledgment of a start settles: that of the current switch, if the engine has started. -/
def settling? (r : Reporter) (success : Bool) : StartOrigin → Option WindowId
  | .user => none
  | .window window generation =>
    if success && r.armed && r.focus.isCurrent generation then some window else none

/-- Completes the switch to a window. -/
def settle (r : Reporter) (window : WindowId) : Reporter × List Effect :=
  let outcome := Focus.outcome window (r.view.activeTabs window)
  let settled := { r with focus := r.focus.settle outcome }
  match outcome with
  | .tracking _ url => (settled, [.call (.switchUrl url)])
  | .anomaly _ _ => ({ settled with enabled := false }, [.call .stop])

/-- Handles the acknowledgment of a start. A refused start of the user's ends the wish to be tracked. -/
def onStartAcked (r : Reporter) (success : Bool) (origin : StartOrigin) : Reporter × List Effect :=
  let acked := { r with enabled := success }
  match acked.settling? success origin with
  | some window => acked.settle window
  | none =>
    match success, origin with
    | false, .user => ({ acked with armed := false }, [])
    | _, _ => (acked, [])

/-- Handles a control request; `recording` is what the engine says of itself. -/
def onControl (r : Reporter) (recording : Bool) (control : Control) (id : Option String) (asker : Asker) :
    Reporter × List Effect :=
  match control with
  | .startTracking =>
    ({ r with armed := true }, [.call (.start .user), .answer asker (.ack id)])
  | .stopTracking =>
    ({ r with armed := false, focus := r.focus.pause, enabled := false },
      [.call .stop, .answer asker (.ack id)])
  | .getTracking => (r, [.answer asker (.truth id r.enabled)])
  | .checkLogin => (r, [.answer asker (.truth id r.loggedIn)])
  | .isTracking => (r, [.answer asker (.truth id recording)])
  | .login credentials => (r, [.call (.login credentials id asker), .answer asker (.later id)])

/-- Handles an input to completion. -/
def handle (r : Reporter) (recording : Bool) : Input → Reporter × List Effect
  | .notification n =>
    let seen := { r with view := r.view.observe n }
    match FocusEvent.ofNotification? n with
    | some event => seen.onFocus event
    | none => (seen, [])
  | .focus event => r.onFocus event
  | .control control id asker => r.onControl recording control id asker
  | .startAcked success origin => r.onStartAcked success origin
  | .loginAcked success id asker =>
    ({ r with loggedIn := r.loggedIn || success }, [.answer asker (.truth id success)])

end Reporter

end FocusJournal
