import FocusJournal.Reporter.Basic

/-!
# Reporter and engine together

The reporter's calls go to an engine as they are made, and what the engine acknowledges at once goes to the end of the
inbox. An engine that answers later posts its acknowledgments itself.

* `Engine` is what a reporter needs of an engine.
* `Station.process` handles one input, `Station.drain` the whole inbox.
-/

namespace FocusJournal

/-- What a reporter needs of an engine. -/
class Engine (ε : Type) where
  /-- Takes a call; the acknowledgments that are ready at once come back. -/
  submit : ε → EngineCall → ε × List Input
  /-- Whether a span is open. -/
  isTracking : ε → Bool
  /-- Whether a device is registered. -/
  isRegistered : ε → Bool

/-- An answer on its way to the one who asked. -/
structure Answer where
  asker : Asker
  response : Response

/-- A reporter with its engine and the inputs that wait. -/
structure Station (ε : Type) where
  reporter : Reporter
  engine : ε
  inbox : List Input

/-- What handling inputs did. -/
structure Outcome where
  answers : List Answer
  calls : List EngineCall

namespace Outcome

/-- Nothing was done. -/
def none : Outcome := ⟨[], []⟩

/-- One thing after another. -/
def append (a b : Outcome) : Outcome := ⟨a.answers ++ b.answers, a.calls ++ b.calls⟩

instance : Append Outcome := ⟨append⟩

end Outcome

namespace Station

variable {ε : Type} [Engine ε]

/-- A station at its start. -/
def start (platform : Platform) (engine : ε) : Station ε :=
  ⟨.initial platform (Engine.isRegistered engine), engine, []⟩

/-- The station with an input at the end of its inbox. -/
def post (s : Station ε) (i : Input) : Station ε := { s with inbox := s.inbox ++ [i] }

/-- Carries out an effect, after what was done so far. -/
def carryOut (state : Station ε × Outcome) : Effect → Station ε × Outcome
  | .answer asker response => (state.1, state.2 ++ ⟨[⟨asker, response⟩], []⟩)
  | .call c =>
    let (engine, acks) := Engine.submit state.1.engine c
    ({ state.1 with engine := engine, inbox := state.1.inbox ++ acks }, state.2 ++ ⟨[], [c]⟩)

/-- Handles an input that is not in the inbox. -/
def process (s : Station ε) (i : Input) : Station ε × Outcome :=
  let (reporter, effects) := s.reporter.handle (Engine.isTracking s.engine) i
  effects.foldl carryOut ({ s with reporter := reporter }, .none)

/-- Handles the oldest input of the inbox. -/
def next? (s : Station ε) : Option (Station ε × Outcome) :=
  match s.inbox with
  | [] => none
  | i :: rest => some (process { s with inbox := rest } i)

/-- Handles inputs until the inbox is empty, at most as many as given, and counts them. -/
def drain : (limit : Nat) → Station ε → Station ε × Outcome × Nat
  | 0, s => (s, .none, 0)
  | limit + 1, s =>
    match s.next? with
    | none => (s, .none, 0)
    | some (s, done) =>
      let (s, rest, count) := drain limit s
      (s, done ++ rest, count + 1)

/-- The number of inputs after which an inbox is empty, if only the engine posts to it: an input leads to one
acknowledgment at most, and that one to none. -/
def pendingInputs (s : Station ε) : Nat := 2 * s.inbox.length

/-- Handles inputs until the inbox is empty, and counts them. -/
def drainAll (s : Station ε) : Station ε × Outcome × Nat := s.drain s.pendingInputs

end Station

end FocusJournal
