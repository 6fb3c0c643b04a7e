import FocusJournal.Text.Blank
import FocusJournal.Text.Numeral

/-!
# Server names

The server of a login is a host with an optional port. An IPv6 address stands in brackets, since its colons could not be
told from the one before the port.

* `ServerName.fault?` tells what is wrong with a name.
-/

namespace FocusJournal

/-- What is wrong with a server name. -/
inductive ServerNameFault where
  | unclosedBracket
  | bareAddress
  | emptyHost
  | badPort
  deriving DecidableEq

/-- The wording of a fault. -/
def ServerNameFault.text : ServerNameFault → String
  | .unclosedBracket => "server host has an unclosed bracket"
  | .bareAddress => "IPv6 server hosts must be bracketed"
  | .emptyHost => "server host is empty"
  | .badPort => "server port is invalid"

namespace ServerName

/-- The text before and after the first occurrence of a character. -/
def splitFirst? (c : Char) (cs : List Char) : Option (List Char × List Char) :=
  match cs.dropWhile (· != c) with
  | [] => none
  | _ :: rest => some (cs.takeWhile (· != c), rest)

/-- A port is a number from 1 to 65535. -/
def isPort (cs : List Char) : Bool :=
  match Text.unsigned? cs with
  | some n => 1 ≤ n && n ≤ 65535
  | none => false

/-- The host of a name and the port written after it. -/
def split : List Char → Except ServerNameFault (List Char × Option (List Char))
  | '[' :: cs =>
    match splitFirst? ']' cs with
    | none => .error .unclosedBracket
    | some (host, []) => .ok (host, none)
    | some (host, ':' :: port) => .ok (host, some port)
    | some (_, _ :: _) => .error .badPort
  | cs =>
    match splitFirst? ':' cs with
    | none => .ok (cs, none)
    | some (host, port) => if port.contains ':' then .error .bareAddress else .ok (host, some port)

/-- What is wrong with a name, if anything is. -/
def fault? (name : String) : Option ServerNameFault :=
  match split (Text.trimChars name.toList) with
  | .error fault => some fault
  | .ok (host, port) =>
    if host.isEmpty then some .emptyHost
    else if port.all isPort then none
    else some .badPort

end ServerName

end FocusJournal
