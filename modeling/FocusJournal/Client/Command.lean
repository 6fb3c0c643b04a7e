import FocusJournal.Client.Arguments
import FocusJournal.Message.Notification

/-!
# Commands

What can be asked for on the command line. Some commands have commands of their own, and any list of commands may be
asked for help.

* `Invocation.ofArguments` reads a command line.
-/

namespace FocusJournal

/-- A command of the client. -/
inductive Command where
  | start
  | stop
  | status
  /-- Registers the device; a password that is not given is read. -/
  | login (server username device : String) (password : Option String)
  | notify (n : Notification)
  /-- Passes on a view of the browser that is read. -/
  | snapshot
  deriving DecidableEq

/-- How much is read of what can be read. -/
inductive Intake where
  | nothing
  | line
  | everything
  deriving DecidableEq

/-- What a command line asks for. -/
inductive Invocation where
  | run (command : Command)
  | help
  | version
  | misuse
  deriving DecidableEq

namespace Command

/-- A command that is given nothing. -/
def plainForm : Form := ⟨[], []⟩

/-- What a login is given. -/
def loginForm : Form :=
  ⟨[("server", .text), ("username", .text), ("device", .text), ("password", .text)], []⟩

/-- What is given for a tab with a new URL. -/
def tabUpdatedForm : Form := ⟨[("window", .number)], [.number, .text]⟩

/-- What is given for a tab that was activated. -/
def tabActivatedForm : Form := ⟨[], [.number, .number]⟩

/-- What is given for a change of focus. -/
def focusForm : Form := ⟨[], [.signedNumber]⟩

/-- The login that a filled form gives. -/
def login? (f : Filled) : Option Command := do
  some (.login (← f.option? "server") (← f.option? "username") (← f.option? "device") (f.option? "password"))

/-- The tab update that a filled form gives. -/
def tabUpdated? (f : Filled) : Option Command := do
  some (.notify (.tabUpdated (← f.placeNumber? 0) (f.optionNumber? "window") (← f.place? 1)))

/-- The tab activation that a filled form gives. -/
def tabActivated? (f : Filled) : Option Command := do
  some (.notify (.tabActivated (← f.placeNumber? 0) (← f.placeNumber? 1)))

/-- The change of focus that a filled form gives. -/
def focus? (f : Filled) : Option Command := do
  some (.notify (.windowFocusChanged (← f.placeNumber? 0)))

end Command

namespace Invocation

/-- The command of a filled form, if everything is there that it needs. -/
def ofForm (form : Form) (build : Filled → Option Command) (arguments : List String) : Invocation :=
  match form.fill arguments with
  | .error .help => help
  | .error .misuse => misuse
  | .ok filled =>
    match build filled with
    | some command => run command
    | none => misuse

/-- Commands by name, each with what it makes of the arguments after it. -/
abbrev Menu := List (String × (List String → Invocation))

/-- Help on a command of a menu is asked for by its name, and by that of a command of its own. -/
def helpOn (names : List (String × List String)) : List String → Invocation
  | [] => help
  | [name] => if (names.lookup name).isSome then help else misuse
  | [name, inner] => if ((names.lookup name).getD []).contains inner then help else misuse
  | _ => misuse

/-- What a command line asks for that begins with a command of a menu or with an option. -/
def ofMenu (menu : Menu) (named : List (String × List String)) (versioned : Bool) : List String → Invocation
  | [] => misuse
  | argument :: rest =>
    match Shape.ofText argument with
    | .separator => misuse
    | .short ('h' :: _) => help
    | .short ('V' :: _) => if versioned then version else misuse
    | .short _ => misuse
    | .long "help" none => help
    | .long "version" none => if versioned then version else misuse
    | .long _ _ => misuse
    | .bare =>
      if argument = "help" then helpOn named rest
      else
        match menu.lookup argument with
        | some read => read rest
        | none => misuse

/-- The names of the notifications that can be passed on. -/
def notificationNames : List String := ["tab-updated", "tab-activated", "focus", "snapshot"]

/-- The notifications that can be passed on. -/
def notificationMenu : Menu := [
  ("tab-updated", ofForm Command.tabUpdatedForm Command.tabUpdated?),
  ("tab-activated", ofForm Command.tabActivatedForm Command.tabActivated?),
  ("focus", ofForm Command.focusForm Command.focus?),
  ("snapshot", ofForm Command.plainForm fun _ => some .snapshot)]

/-- What is asked for of a notification. -/
def ofNotifyArguments : List String → Invocation :=
  ofMenu notificationMenu (("help", []) :: notificationNames.map fun name => (name, [])) false

/-- All commands. -/
def menu : Menu := [
  ("start", ofForm Command.plainForm fun _ => some .start),
  ("stop", ofForm Command.plainForm fun _ => some .stop),
  ("status", ofForm Command.plainForm fun _ => some .status),
  ("login", ofForm Command.loginForm Command.login?),
  ("notify", ofNotifyArguments)]

/-- The commands that help can be asked on, with their own commands. -/
def names : List (String × List String) :=
  [("start", []), ("stop", []), ("status", []), ("login", []), ("notify", "help" :: notificationNames), ("help", [])]

/-- What a command line asks for. -/
def ofArguments : List String → Invocation := ofMenu menu names true

/-- How much of its input a command line needs. -/
def intake : Invocation → Intake
  | run (.login _ _ _ none) => .line
  | run .snapshot => .everything
  | _ => .nothing

end Invocation

end FocusJournal
