import FocusJournal.Reporter.Station

/-!
# The rehearsed engine

An engine for trying a reporter out: it answers as its switches say, and it can hold starts and logins back to
acknowledge them later, in any order.

* `RehearsedEngine.releaseStart?` and `RehearsedEngine.releaseLogin?` acknowledge a call that was held back.
-/

namespace FocusJournal

/-- A login that is held back. -/
structure HeldLogin where
  id : Option String
  asker : Asker

/-- The switches of a rehearsed engine and the calls that it holds back. -/
structure RehearsedEngine where
  startResult : Bool
  loginResult : Bool
  holdStarts : Bool
  holdLogins : Bool
  registered : Bool
  tracking : Bool
  heldStarts : List StartOrigin
  heldLogins : List HeldLogin

namespace RehearsedEngine

/-- An engine that grants everything at once. -/
def initial : RehearsedEngine := ⟨true, true, false, false, false, false, [], []⟩

/-- Takes a call. -/
def submit (e : RehearsedEngine) : EngineCall → RehearsedEngine × List Input
  | .start origin =>
    if e.holdStarts then ({ e with heldStarts := e.heldStarts ++ [origin] }, [])
    else ({ e with tracking := e.startResult }, [.startAcked e.startResult origin])
  | .stop => ({ e with tracking := false }, [])
  | .switchUrl _ => (e, [])
  | .login _ id asker =>
    if e.holdLogins then ({ e with heldLogins := e.heldLogins ++ [⟨id, asker⟩] }, [])
    else (e, [.loginAcked e.loginResult id asker])

instance : Engine RehearsedEngine where
  submit := submit
  isTracking e := e.tracking
  isRegistered e := e.registered

/-- Acknowledges a start that was held back, by its place among them. -/
def releaseStart? (e : RehearsedEngine) (place : Nat) (success : Bool) : Option (RehearsedEngine × Input) :=
  e.heldStarts[place]?.map fun origin =>
    ({ e with tracking := success, heldStarts := e.heldStarts.eraseIdx place }, .startAcked success origin)

/-- Acknowledges a login that was held back, by its place among them. -/
def releaseLogin? (e : RehearsedEngine) (place : Nat) (success : Bool) : Option (RehearsedEngine × Input) :=
  e.heldLogins[place]?.map fun held =>
    ({ e with heldLogins := e.heldLogins.eraseIdx place }, .loginAcked success held.id held.asker)

end RehearsedEngine

end FocusJournal
