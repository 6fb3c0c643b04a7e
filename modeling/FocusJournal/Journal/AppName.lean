import FocusJournal.Url.Basic

/-!
# Application names

The journal notes the application of a URL: its host, with the port if one is written, even the one that the scheme
means anyway.

* `appName` gives the name of a URL's application.
-/

namespace FocusJournal

/-- The application of a URL without a host. -/
def unknownApp : String := "Unknown"

/-- What follows the first `://` of a text. -/
def afterSlashes? : List Char → Option (List Char)
  | ':' :: '/' :: '/' :: rest => some rest
  | _ :: rest => afterSlashes? rest
  | [] => none

/-- The port written in a text: the numeral after the last colon, before any path and after any user. -/
def scannedPort? (url : String) : Option Nat := do
  let rest ← afterSlashes? (Text.trimChars url.toList)
  let place := rest.takeWhile fun c => c ≠ '/' ∧ c ≠ '?' ∧ c ≠ '#'
  let hostAndPort := (Url.Authority.splitUser place).2
  let port := (hostAndPort.reverse.takeWhile fun c => c ≠ ':').reverse
  if port.length = hostAndPort.length then none
  else (Text.unsigned? port).bind fun n => if n ≤ 65535 then some n else none

/-- The application of a host and a port. -/
def appOf (host : List Char) : Option Nat → String
  | none => String.ofList host
  | some port => String.ofList (host ++ ':' :: Text.naturalDigits port)

/-- The name of a URL's application. -/
def appName (url : String) : String :=
  match Url.parse? url with
  | none => unknownApp
  | some u =>
    match u.authority.host with
    | none => unknownApp
    | some host => appOf host.text (u.unusualPort?.or (scannedPort? url))

end FocusJournal
