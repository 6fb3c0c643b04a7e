import FocusJournal.Text.Numeral
import FocusJournal.Url.Host

/-!
# Authorities

The authority of a URL names a host, perhaps with a port after it and with the name of a user before it.

* `Authority.ofText?` reads an authority.
-/

namespace FocusJournal.Url

/-- The host of a URL, if it has one, and the port that is written after it. -/
structure Authority where
  host : Option Host
  port : Option Nat
  deriving DecidableEq

namespace Authority

/-- What stands before and after the last `@`. -/
def splitUser (cs : List Char) : List Char × List Char :=
  let place := (cs.reverse.takeWhile fun c => c ≠ '@').reverse
  ((cs.take (cs.length - place.length)).dropLast, place)

/-- What stands before the first colon outside brackets, and what begins with it. -/
def splitPort (inside : Bool) : List Char → List Char × List Char
  | [] => ([], [])
  | c :: cs =>
    if c = ':' ∧ !inside then ([], c :: cs)
    else
      let (host, port) := splitPort (c = '[' || (inside && c != ']')) cs
      (c :: host, port)

/-- The port that digits write. A port may be left out after its colon. -/
def port? (digits : List Char) : Option (Option Nat) :=
  if digits.isEmpty then some none
  else
    match Text.natural? digits with
    | some n => if n ≤ 65535 then some (some n) else none
    | none => none

/-- The port that is written after a host, colon included. -/
def writtenPort? : List Char → Option (Option Nat)
  | [] => some none
  | _ :: port => port? (port.takeWhile fun c => c ≠ '\\')

/-- The host that a text names in a network, or as it is. -/
def host? (inNetwork : Bool) (cs : List Char) : Option Host :=
  if inNetwork then Host.ofNetworkText? cs else Host.ofOpaqueText? cs

/-- Whether the part before the last `@` names a user or gives a password. -/
def namesUser (user : List Char) : Bool := !user.isEmpty && user != [':']

/-- The authority that a text gives. Without a host there is no port and no user, and no network to find it in. -/
def ofText? (inNetwork : Bool) (cs : List Char) : Option Authority :=
  let (user, place) := splitUser cs
  let (host, port) := splitPort false place
  if host.isEmpty then
    if inNetwork || namesUser user || !port.isEmpty then none else some ⟨none, none⟩
  else do
    let host ← host? inNetwork host
    let port ← writtenPort? port
    some ⟨some host, port⟩

end Authority

end FocusJournal.Url
