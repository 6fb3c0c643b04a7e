/-!
# Actions

The vocabulary of control requests. Each action has one name on the wire, and a name that is not in the vocabulary
names no action.

* `Action.ofName?_name`: the name of an action is read back as the action.
-/

namespace FocusJournal

/-- What a control request asks for. -/
inductive Action where
  | startTracking
  | stopTracking
  | getTracking
  | checkLogin
  | login
  | isTracking
  deriving DecidableEq

namespace Action

/-- The vocabulary, in its order. -/
def all : List Action := [startTracking, stopTracking, getTracking, checkLogin, login, isTracking]

/-- The name of an action on the wire. -/
def name : Action → String
  | startTracking => "START_TRACKING"
  | stopTracking => "STOP_TRACKING"
  | getTracking => "GET_TRACKING"
  | checkLogin => "CHECK_LOGIN"
  | login => "LOGIN"
  | isTracking => "IS_TRACKING"

/-- The action of a name. -/
def ofName? (name : String) : Option Action := all.find? fun a => a.name == name

/-- Whether the answer to an action comes after a first line that says it is pending. -/
def isDeferred (a : Action) : Bool := a = login

/-- The name of an action is read as that action. -/
theorem ofName?_name (a : Action) : ofName? a.name = some a := by
  cases a <;> decide

end Action

end FocusJournal
