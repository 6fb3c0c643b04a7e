import FocusJournal.Json.Format
import FocusJournal.Message.Refusal
import FocusJournal.Text.Blank

/-!
# Credentials

What a login carries: a server, a user, a password and a device. The password is written on the wire only, never in
`Credentials.description`.

* `Credentials.ofJson` reads credentials and refuses blank ones.
-/

namespace FocusJournal

/-- What a login carries. -/
structure Credentials where
  server : String
  username : String
  password : String
  device : String
  deriving DecidableEq

namespace Credentials

/-- The fields of credentials on the wire. -/
def record : Record Credentials where
  title := "struct LoginPayload"
  blank := ⟨"", "", "", ""⟩
  fields := [
    .needed "serverName" .string fun s c => { c with server := s },
    .needed "username" .string fun s c => { c with username := s },
    .needed "password" .string fun s c => { c with password := s },
    .needed "deviceName" .string fun s c => { c with device := s }]
  closed := true

/-- Credentials on the wire, field by field. -/
def toJson (c : Credentials) : Json :=
  .object [("serverName", .string c.server), ("username", .string c.username), ("password", .string c.password),
    ("deviceName", .string c.device)]

/-- Credentials as the payload of a request, its keys in order. -/
def payload (c : Credentials) : Json :=
  .object [("deviceName", .string c.device), ("password", .string c.password), ("serverName", .string c.server),
    ("username", .string c.username)]

/-- Credentials for a log: everything but the password. -/
def description (c : Credentials) : String :=
  "LoginPayload \x7b server_name: " ++ Text.quote c.server ++ ", username: " ++ Text.quote c.username
    ++ ", password: " ++ Text.quote "<redacted>" ++ ", device_name: " ++ Text.quote c.device ++ " \x7d"

/-- The first blank field, by its name on the wire. -/
def blankField? (c : Credentials) : Option String :=
  if Text.isBlankString c.server then some "serverName"
  else if Text.isBlankString c.username then some "username"
  else if Text.isBlankString c.password then some "password"
  else if Text.isBlankString c.device then some "deviceName"
  else none

/-- The credentials that a payload gives, none of them blank. -/
def ofJson (payload : Json) : Except Refusal Credentials :=
  match record.ofJson payload with
  | .error m => .error (.malformedCredentials m)
  | .ok c =>
    match c.blankField? with
    | some field => .error (.blankField field)
    | none => .ok c

end Credentials

end FocusJournal
