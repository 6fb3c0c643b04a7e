import FocusJournal.Client.Command
import FocusJournal.Client.Dialogue
import FocusJournal.Message.Control

/-!
# Running commands

Each command is a dialogue with the reporter. It ends with the lines to show and whether the command succeeded, or with
the reason why it could not be carried out.

* `Command.dialogue` is the dialogue of a command, `Exit.ofInvocation` what a command line comes to.
-/

namespace FocusJournal

/-- Why a command could not be carried out. -/
inductive CommandFault where
  | exchange (failure : Failure)
  /-- What was to be read is not text. -/
  | inputUnreadable
  /-- What was read is no view of the browser, for the reason given. -/
  | badSnapshot (reason : String)
  /-- An answer that should have been a truth value is none. -/
  | undecided (action : Action)

/-- The wording of a fault. -/
def CommandFault.text : CommandFault → String
  | .exchange failure => failure.text
  | .inputUnreadable => "Failed to read stdin: " ++ notText
  | .badSnapshot reason => "Invalid snapshot: " ++ reason
  | .undecided action => "Reporter gave no boolean answer to " ++ action.name

/-- What a command that was carried out has to say. -/
structure Report where
  lines : List String
  success : Bool

/-- How a command comes out. -/
abbrev CommandResult := Except CommandFault Report

namespace Command

/-- A dialogue that goes on only with a good answer. -/
def sending (message : Json) (next : Response → Dialogue CommandResult) : Dialogue CommandResult :=
  .exchange message fun answer =>
    match answer with
    | .error failure => .done (.error (.exchange failure))
    | .ok response => next response

/-- A dialogue that goes on only with a truth value. -/
def asking (action : Action) (request : ControlRequest) (next : Bool → Dialogue CommandResult) :
    Dialogue CommandResult :=
  sending request.toJson fun response =>
    match response.asBool? with
    | some b => next b
    | none => .done (.error (.undecided action))

/-- The end of a command that has succeeded. -/
def succeed (lines : List String) : Dialogue CommandResult := .done (.ok ⟨lines, true⟩)

/-- A request that needs only to be granted. -/
def granting (action : Action) (line : String) : Dialogue CommandResult :=
  sending (ControlRequest.ofAction action).toJson fun _ => succeed [line]

/-- A query after a truth value. -/
def querying (action : Action) (next : Bool → Dialogue CommandResult) : Dialogue CommandResult :=
  asking action (.ofAction action) next

/-- The three lines of a status. -/
def statusLines (tracking loggedIn recording : Bool) : List String :=
  let yesNo (b : Bool) : String := if b then "yes" else "no"
  ["tracking: " ++ (if tracking then "on" else "off"), "logged in: " ++ yesNo loggedIn,
    "engine recording: " ++ yesNo recording]

/-- A login with all four credentials. -/
def loggingIn (c : Credentials) : Dialogue CommandResult :=
  asking .login (.login c) fun success =>
    .done (.ok ⟨[if success then "logged in" else "login failed"], success⟩)

/-- The password on the first line of what is read. -/
def password? (input : List UInt8) : Option String :=
  (Text.text? ((Reply.linesFrom [] input).headD [])).map fun cs =>
    String.ofList (cs.reverse.dropWhile fun c => c = '\r' || c = '\n').reverse

/-- Passes on a notification. -/
def notifying (n : Notification) : Dialogue CommandResult := sending n.toJson fun _ => succeed []

/-- Passes on the view of the browser that is read. -/
def passingOn (input : List UInt8) : Dialogue CommandResult :=
  match Text.text? input with
  | none => .done (.error .inputUnreadable)
  | some _ =>
    match WindowView.listFormat.ofBytes input with
    | .error reason => .done (.error (.badSnapshot reason))
    | .ok windows => notifying (.snapshot windows)

/-- The dialogue of a command, with what can be read. -/
def dialogue (input : List UInt8) : Command → Dialogue CommandResult
  | start => granting .startTracking "start requested"
  | stop => granting .stopTracking "stopped"
  | status =>
    querying .getTracking fun tracking =>
    querying .checkLogin fun loggedIn =>
    querying .isTracking fun recording =>
    succeed (statusLines tracking loggedIn recording)
  | login server username device (some password) => loggingIn ⟨server, username, password, device⟩
  | login server username device none =>
    match password? input with
    | none => .done (.error .inputUnreadable)
    | some password => loggingIn ⟨server, username, password, device⟩
  | notify n => notifying n
  | snapshot => passingOn input

end Command

/-- How the program ends: the lines it shows, what it complains of, and its code. -/
structure Exit where
  code : Nat
  lines : List String
  complaint : Option String
  deriving DecidableEq

namespace Exit

/-- The name of the program. -/
def program : String := "tabtrack"

/-- How a command ends. -/
def ofResult : CommandResult → Exit
  | .error fault => ⟨1, [], some (program ++ ": " ++ fault.text)⟩
  | .ok report => ⟨if report.success then 0 else 2, report.lines, none⟩

/-- How the program is used. -/
def usage : List String := [
  "Usage: " ++ program ++ " COMMAND",
  "",
  "Commands:",
  "  start          start tracking",
  "  stop           stop tracking",
  "  status         show tracking and login state",
  "  login          log in and register this device",
  "                 (--server NAME --username NAME --device NAME [--password WORD])",
  "  notify         pass on a notification of the browser:",
  "                 tab-updated TAB URL [--window WINDOW], tab-activated TAB WINDOW, focus WINDOW, snapshot",
  "  help           show this text"]

/-- What a command line comes to: a dialogue that ends the program. -/
def ofInvocation (input : List UInt8) : Invocation → Dialogue Exit
  | .run command => after (command.dialogue input)
  | .help => .done ⟨0, usage, none⟩
  | .version => .done ⟨0, [program ++ " 0.1.0"], none⟩
  | .misuse => .done ⟨2, [], none⟩
where
  /-- Ends the program with the result of a dialogue. -/
  after : Dialogue CommandResult → Dialogue Exit
    | .done result => .done (ofResult result)
    | .exchange message next => .exchange message fun answer => after (next answer)

end Exit

end FocusJournal
