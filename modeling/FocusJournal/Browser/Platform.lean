import FocusJournal.Text.Blank

/-!
# Platforms

The operating system of the browser, by the browser's own name for it, and whether its focus notifications can be relied
on. Where they get lost, the focus is polled.

* `Platform.resolve` takes a configured name, or else the host.
-/

namespace FocusJournal

/-- An operating system by name, in lower case and without blanks around it. -/
structure Platform where
  name : String
  deriving DecidableEq

/-- Whether every change of focus is notified. -/
inductive Reliability where
  /-- Notifications arrive dependably. -/
  | reliable
  /-- Notifications get lost when the browser is left and entered again. -/
  | unreliable
  deriving DecidableEq

/-- Polling makes up for notifications that get lost. -/
def Reliability.needsPolling : Reliability → Bool
  | .reliable => false
  | .unreliable => true

namespace Platform

/-- The platform of a name. -/
def ofName (name : String) : Platform :=
  ⟨String.ofList ((Text.trimChars name.toList).map Text.asciiLower)⟩

/-- The platform that the reporter runs on. -/
def host : Platform := ⟨"linux"⟩

/-- The configured platform, or the host where none is named. -/
def resolve : Option String → Platform
  | none => host
  | some name => if Text.isBlankString name then host else ofName name

/-- How far the focus notifications of a platform can be relied on. -/
def reliability (p : Platform) : Reliability := if p.name = "mac" then .reliable else .unreliable

/-- The time between two polls, on a platform that needs them. -/
def schedule? (p : Platform) (interval : Nat) : Option Nat :=
  if p.reliability.needsPolling then some interval else none

end Platform

end FocusJournal
