import FocusJournal.Proofs.Client.Exchange
import FocusJournal.Proofs.Message.Control
import Mathlib.Data.List.TakeWhile

/-!
# Logging in from the command line

What the command line says of a login is true of the reporter and of the journal, whatever goes on there meanwhile:
`login_verdict`. Between them the credentials are written and read, checked twice by different rules, passed on to the
engine, and the verdict comes back after a pending answer.
-/

open scoped List

namespace FocusJournal

/-! ## Blank fields -/

/-- A string is blank if nothing is left of it without the blanks around it. -/
lemma Text.trim_eq_empty {s : String} : trim s = "" ↔ isBlankString s = true := by
  rw [trim, ← String.ofList_nil, String.ofList_inj, trimChars, isBlankString, List.reverse_eq_nil_iff,
    List.dropWhile_eq_nil_iff, List.all_eq_true]
  constructor
  · intro h
    refine List.dropWhile_eq_nil_iff.1 (Classical.byContradiction fun left => ?_)
    have first := List.head_dropWhile_not isBlank left
    rw [h _ (List.mem_reverse.2 (List.head_mem left))] at first
    cases first
  · intro h c hc
    exact h c ((List.dropWhile_suffix _).subset (List.mem_reverse.1 hc))

namespace Credentials

/-- Some field is blank after trimming. -/
def SomeBlank (c : Credentials) : Prop :=
  Text.trim c.server = "" ∨ Text.trim c.username = "" ∨ Text.trim c.password = "" ∨ Text.trim c.device = ""

/-- No blank field is found if and only if there is none. -/
lemma blankField?_eq_none {c : Credentials} : c.blankField? = none ↔ ¬ c.SomeBlank := by
  rw [SomeBlank, Text.trim_eq_empty, Text.trim_eq_empty, Text.trim_eq_empty, Text.trim_eq_empty, blankField?]
  cases Text.isBlankString c.server <;> cases Text.isBlankString c.username <;> cases Text.isBlankString c.password <;>
    cases Text.isBlankString c.device <;> simp

/-- A blank field is one of the four. -/
lemma mem_of_blankField? {c : Credentials} {field : String} (h : c.blankField? = some field) :
    field ∈ ["serverName", "username", "password", "deviceName"] := by
  unfold blankField? at h
  repeat
    split at h
    · cases h
      decide
  cases h

/-- Of credentials without a blank field the engine looks at the server alone. -/
lemma accepts_of_blankField? {c : Credentials} (h : c.blankField? = none) :
    Recorder.accepts c = (ServerName.fault? c.server).isNone := by
  rw [blankField?_eq_none, SomeBlank, Text.trim_eq_empty, Text.trim_eq_empty, Text.trim_eq_empty, Text.trim_eq_empty] at h
  simp only [not_or, Bool.not_eq_true] at h
  obtain ⟨_, username, password, device⟩ := h
  have there : c.password.isEmpty = false := by
    rw [Bool.eq_false_iff]
    intro he
    rw [String.isEmpty_iff.1 he] at password
    cases password
  simp [Recorder.accepts, username, device, there]

end Credentials

/-! ## The exchange -/

namespace Response

/-- A pending response can be sent. -/
lemma portable_later : (later none).Portable := by
  refine ⟨nofun, ?_⟩
  rw [line_eq]
  decide +kernel

/-- A truth value can be sent. -/
lemma portable_truth (b : Bool) : (truth none b).Portable := by
  refine ⟨fun j hj => ?_, ?_⟩
  · cases hj
    exact ⟨nofun, rfl, rfl, (by decide : 0 < Json.depthLimit)⟩
  · rw [line_eq]
    cases b <;> decide +kernel

/-- The names of fields are short. -/
lemma portable_blankField {c : Credentials} {field : String} (h : c.blankField? = some field) :
    (refused none (.blankField field)).Portable := by
  refine portable_refused ?_
  have names := Credentials.mem_of_blankField? h
  simp only [List.mem_cons, List.not_mem_nil, or_false] at names
  rw [line_eq]
  rcases names with rfl | rfl | rfl | rfl <;> decide +kernel

end Response

namespace Exchange

variable {s : Station JournalEngine} {c : Credentials} {x : Exchange s (ControlRequest.login c).toJson}

/-- What is to be done for a login that is short enough. -/
lemma errand_login (short : (Dialogue.lineOf (ControlRequest.login c).toJson).length ≤ Request.maxBytes) :
    x.errand = match c.blankField? with
      | some field => .refuse (.refused none (.blankField field))
      | none => .ask (.login c) none := by
  rw [errand, ControlRequest.receive_toJson (ControlRequest.portable_login c) x.whole short, Errand.ofReceived]
  simp only [ControlRequest.parse_login, Errand.ofEnvelope, ControlRequest.check_login]
  cases c.blankField? <;> rfl

/-- The client reads the reason for which its message was refused. -/
lemma reply_refused {message : Json} {x : Exchange s message} {reason : Refusal}
    (refused : x.errand = .refuse (.refused none reason)) (portable : (Response.refused none reason).Portable) :
    x.reply = .error (.rejected reason.complaint) := by
  have written : x.visit.written = [.refused none reason] := by rw [visit, refused]; rfl
  have lines := Reply.linesFrom_lines (List.forall_mem_singleton.2 portable) []
  rw [List.append_nil] at lines
  rw [reply, written, Reply.read, lines, List.map_singleton, List.singleton_append, Reply.await_line portable]
  rfl

/-- The client reads the verdict that comes after a pending answer. -/
lemma reply_verdict {x : Exchange s (ControlRequest.login c).toJson} {success : Bool}
    (asked : x.errand = .ask (.login c) none)
    (responses : x.events.responses x.asker = [.later none, .truth none success]) :
    x.reply = .ok (.truth none success) := by
  have portable : ∀ r ∈ (relay none x.silence [.later none, .truth none success]).1, r.Portable := by
    intro r hr
    rcases List.mem_pair.1 hr with rfl | rfl
    · exact Response.portable_later
    · exact Response.portable_truth success
  have final : Reply.final? [.later none, .truth none success] = some (.truth none success) := rfl
  have read := Reply.read_transcript_append portable []
  rw [List.append_nil, final] at read
  have written : x.visit.written = (relay none x.silence [.later none, .truth none success]).1 := by
    rw [visit, asked, Errand.visit, responses, Errand.written]
  rw [reply, written]
  exact read.trans (if_pos rfl)

end Exchange

/-- How the program ends with the answer to a login. -/
def Exit.ofLogin (answer : Except Failure Response) : Exit :=
  ofResult <| match answer with
    | .error failure => .error (.exchange failure)
    | .ok response =>
      match response.asBool? with
      | some success => .ok ⟨[if success then "logged in" else "login failed"], success⟩
      | none => .error (.undecided .login)

/-- A login that is rejected for a blank field ends with its name on the second output. -/
lemma Exit.ofLogin_blankField {field : String} (h : field ∈ ["serverName", "username", "password", "deviceName"]) :
    ofLogin (.error (.rejected (Refusal.blankField field).complaint)) = ⟨1, [],
      some ("tabtrack: Reporter rejected the request: missing_field: " ++ field ++ " is required")⟩ := by
  simp only [List.mem_cons, List.not_mem_nil, or_false] at h
  rcases h with rfl | rfl | rfl | rfl <;> decide +kernel

/-- With a password at hand, a login is one exchange. -/
lemma Exit.ofInvocation_login {input : List UInt8} {server username device : String} {password : Option String}
    {word : String} (given : password.or (Command.password? input) = some word) :
    ofInvocation input (.run (.login server username device password)) =
      .exchange (ControlRequest.login ⟨server, username, word, device⟩).toJson fun answer => .done (ofLogin answer) := by
  have dialogue : (Command.login server username device password).dialogue input =
      Command.loggingIn ⟨server, username, word, device⟩ := by
    cases password with
    | some _ =>
      cases given
      rfl
    | none =>
      rw [Option.none_or] at given
      rw [Command.dialogue, given]
  rw [ofInvocation, dialogue, Command.loggingIn, Command.asking, Command.sending, ofInvocation.after]
  congr
  funext answer
  cases answer with
  | error failure => rfl
  | ok response => cases hr : response.asBool? <;> simp [ofInvocation.after, ofLogin, hr]

namespace Station

/-- The journal stores a registration, and whoever asks is told whether someone has logged in. -/
def Shows (s : Station JournalEngine) (registration : Option Registration) (loggedIn : Bool) : Prop :=
  s.engine.recorder.journal.registration = registration ∧ ∀ recording id asker,
    (s.reporter.handle recording (.control .checkLogin id asker)).2 = [.answer asker (.truth id loggedIn)]

/-- What a station shows of a login is the registration in the journal and the flag of the reporter. -/
lemma shows_iff {s : Station JournalEngine} {registration : Option Registration} {loggedIn : Bool} :
    s.Shows registration loggedIn ↔
      s.engine.recorder.journal.registration = registration ∧ s.reporter.loggedIn = loggedIn := by
  refine and_congr_right fun _ => ⟨fun told => ?_, fun same _ _ _ => by rw [← same]; rfl⟩
  have answer := told false none 0
  simp only [Reporter.handle, Reporter.onControl, Response.truth, Response.value, List.cons.injEq, Effect.answer.injEq,
    Response.mk.injEq, Option.some.injEq, Json.bool.injEq, and_true, true_and] at answer
  exact answer

end Station

/-- What the exit of the command line says of a login is true. -/
structure LoginVerdict {s : Station JournalEngine} (c : Credentials) (x : Exchange s (ControlRequest.login c).toJson)
    (exit : Exit) : Prop where
  /-- A login with a blank field is rejected for the first one, and nothing changes. -/
  blank : c.SomeBlank → x.visit.posted = [] ∧
    (∃ field, c.blankField? = some field ∧ exit = ⟨1, [],
      some ("tabtrack: Reporter rejected the request: missing_field: " ++ field ++ " is required")⟩) ∧
    ∀ registration loggedIn, s.Shows registration loggedIn → x.after.Shows registration loggedIn
  /-- Any other login is applied by the engine. It is reported as a success just where the name of the server makes
  sense and the disk takes the registration at that time; otherwise all is as before. -/
  applied : ¬ c.SomeBlank → ∃ t₁ s₁ t₂ success,
    x.events = t₁ ++ .applied (.login c none x.asker) success :: t₂ ∧
    Station.Run (s.post (.control (.login c) none x.asker)) t₁ s₁ ∧
    (success = true ↔
      ServerName.fault? c.server = none ∧ s₁.engine.recorder.journal.registrationWritable = true) ∧
    (success = true → exit = ⟨0, ["logged in"], none⟩ ∧
      x.after.Shows (some ⟨Text.trim c.server, Text.trim c.username, Text.trim c.device, ""⟩) true) ∧
    (success = false → exit = ⟨2, ["login failed"], none⟩ ∧
      ∀ registration loggedIn, s.Shows registration loggedIn → x.after.Shows registration loggedIn)

namespace Exchange

variable {s : Station JournalEngine} {c : Credentials} {x : Exchange s (ControlRequest.login c).toJson}

/-- An exchange is a run from the station to which its inputs have been posted. -/
lemma run_posted {inputs : List Input} (posted : x.visit.posted = inputs) :
    Station.Run (inputs.foldl Station.post s) x.events x.after := by
  rw [← posted]
  exact x.run

/-- A login with a blank field. -/
lemma verdict_of_blank {field : String} (refused : x.errand = .refuse (.refused none (.blankField field)))
    (blank : c.blankField? = some field) (alive : s.engine.alive = true) (free : Station.LoginFree s) (alone : x.Alone) :
    LoginVerdict c x (.ofLogin x.reply) := by
  have posted : x.visit.posted = [] := by rw [visit, refused]; rfl
  refine ⟨fun _ => ⟨posted, ⟨field, blank, ?_⟩, fun registration loggedIn before => ?_⟩, fun whole => ?_⟩
  · rw [reply_refused refused (Response.portable_blankField blank)]
    exact Exit.ofLogin_blankField (Credentials.mem_of_blankField? blank)
  · rw [Alone, posted, List.sublist_nil, List.filter_eq_nil_iff] at alone
    have unasked := (x.run_posted posted).unasked alive free fun i hi => by
      have others := alone i hi
      rw [Bool.or_eq_true, not_or, Bool.not_eq_true] at others
      exact others.1
    rw [Station.shows_iff] at before ⊢
    rw [unasked.registration, unasked.loggedIn]
    exact before
  · rw [Credentials.blankField?_eq_none.2 whole] at blank
    cases blank

/-- A login without a blank field. -/
lemma verdict_of_asked (asked : x.errand = .ask (.login c) none) (whole : c.blankField? = none)
    (alive : s.engine.alive = true) (free : Station.LoginFree s) (alone : x.Alone)
    (answered : x.after.isQuiescent = true ∨ x.Answered) :
    x.Answered ∧ LoginVerdict c x (.ofLogin x.reply) := by
  have posted : x.visit.posted = [.control (.login c) none x.asker] := by rw [visit, asked]; rfl
  rw [Alone, posted] at alone
  have final : x.after.isQuiescent = true ∨ ∃ r ∈ x.events.responses x.asker, r.pending = false := by
    refine answered.imp_right fun h => ?_
    obtain ⟨r, hr⟩ := Option.isSome_iff_exists.1 (h _ _ asked)
    exact ⟨r, List.mem_of_find?_eq_some hr, by simpa using List.find?_some hr⟩
  obtain ⟨success, responses, ruled⟩ := (x.run_posted posted).login_alone alive free alone final
  refine ⟨fun control id _ => by rw [responses]; rfl, fun blank => ?_, fun _ => ?_⟩
  · exact absurd blank (Credentials.blankField?_eq_none.1 whole)
  · obtain ⟨t₁, s₁, t₂, events, run, verdict⟩ := ruled.applied
    have told : x.reply = .ok (.truth none success) := reply_verdict asked responses
    refine ⟨t₁, s₁, t₂, success, events, run, ?_, ?_, ?_⟩
    · rw [verdict, Credentials.accepts_of_blankField? whole, Bool.and_eq_true, Option.isNone_iff_eq_none]
    · rintro rfl
      rw [told, Station.shows_iff, ruled.registration, ruled.loggedIn]
      exact ⟨rfl, rfl, Bool.or_true _⟩
    · rintro rfl
      refine ⟨by rw [told]; rfl, fun registration loggedIn before => ?_⟩
      rw [Station.shows_iff] at before ⊢
      rw [ruled.registration, ruled.loggedIn, Bool.or_false]
      exact before

/-- Whatever a login comes to, the exit is true of it, and where nothing is left to do it has been answered. -/
lemma verdict_of_login (short : (Dialogue.lineOf (ControlRequest.login c).toJson).length ≤ Request.maxBytes)
    (alive : s.engine.alive = true) (free : Station.LoginFree s) (alone : x.Alone)
    (answered : x.visit.posted = [] ∨ x.after.isQuiescent = true ∨ x.Answered) :
    x.Answered ∧ LoginVerdict c x (.ofLogin x.reply) := by
  -- The blank field decides whether the reporter is asked at all.
  have errand := x.errand_login short
  cases hb : c.blankField? with
  | some field =>
    simp only [hb] at errand
    refine ⟨fun control id asked => ?_, verdict_of_blank errand hb alive free alone⟩
    rw [errand] at asked
    cases asked
  | none =>
    simp only [hb] at errand
    refine verdict_of_asked errand hb alive free alone (answered.resolve_left ?_)
    rw [visit, errand]
    exact List.cons_ne_nil _ _

/-- Where nothing waits and nothing is posted but the message, it has the station to itself. -/
lemma alone_of_outer (quiet : s.isQuiescent = true)
    (outside : Station.outer x.events.inputs <+ Station.outer (s.inbox ++ x.visit.posted)) : x.Alone := by
  rw [(Station.isQuiescent_iff.1 quiet).1, List.nil_append] at outside
  refine .trans (List.monotone_filter_right _ fun i hi => ?_) (outside.trans List.filter_sublist)
  cases i with
  | startAcked | loginAcked => simp [Input.isLogin, Input.asker?] at hi
  | _ => rfl

end Exchange

/-- A login on the command line, whatever the strings are and whatever goes on meanwhile, comes out as what it is. The
program sends one message. As long as nobody else logs in and the answer comes in time, how the program ends is true of
the reporter and of the journal. A daemon that is at rest gives its answer, and the program ends so. -/
theorem login_verdict {input : List UInt8} {server username device : String} {password : Option String} {word : String}
    (given : password.or (Command.password? input) = some word)
    (short : (Dialogue.lineOf (ControlRequest.login ⟨server, username, word, device⟩).toJson).length ≤ Request.maxBytes)
    {s : Station JournalEngine} (alive : s.engine.alive = true) (free : Station.LoginFree s) :
    let c : Credentials := ⟨server, username, word, device⟩
    let command : Invocation := .run (.login server username device password)
    Exit.ofInvocation input command =
        .exchange (ControlRequest.login c).toJson (fun answer => .done (.ofLogin answer)) ∧
      (∀ x : Exchange s (ControlRequest.login c).toJson, x.Alone → x.Answered →
        LoginVerdict c x (.ofLogin x.reply)) ∧
      ∀ d : Daemon, d.service.status = .running s → s.isQuiescent = true →
        ∃ x : Exchange s (ControlRequest.login c).toJson, x.Alone ∧ x.Answered ∧
          (d.serve input command).1.service.status = .running x.after ∧ LoginVerdict c x (d.serve input command).2 := by
  intro c command
  have dialogue : Exit.ofInvocation input command = _ := Exit.ofInvocation_login given
  refine ⟨dialogue, fun x alone answered => ?_, fun d running quiet => ?_⟩
  · exact (x.verdict_of_login short alive free alone (.inr (.inr answered))).2
  · obtain ⟨x, after, read, outside, rest⟩ := d.exists_exchange running alive (ControlRequest.login c).toJson
    have alone := x.alone_of_outer quiet outside
    obtain ⟨answered, verdict⟩ := x.verdict_of_login short alive free alone (rest.imp_right .inl)
    have served : d.serve input command =
        ((d.reply (Dialogue.lineOf (ControlRequest.login c).toJson)).1, .ofLogin x.reply) := by
      rw [Daemon.serve, dialogue, Dialogue.hold_exchange, read]
    simp only [served]
    exact ⟨x, alone, answered, after, verdict⟩

/-- The password is read, and the server is none. -/
theorem login_verdict_badPort :
    let d : Daemon := ⟨⟨"/home/ann", []⟩, .standard, .start ⟨"linux"⟩ .fresh⟩
    let served := d.serve (Text.bytesOf "secret\n") (.run (.login "srv:0" "ann" "desk" none))
    served.2 = ⟨2, ["login failed"], none⟩ ∧ served.1.journal.registration = none := by
  intro d served
  let s : Station JournalEngine := .start ⟨"linux"⟩ ⟨⟨.fresh, false, false, none⟩, [], true⟩
  have given : (none : Option String).or (Command.password? (Text.bytesOf "secret\n")) = some "secret" := by decide +kernel
  have short : (Dialogue.lineOf (ControlRequest.login ⟨"srv:0", "ann", "secret", "desk"⟩).toJson).length ≤
      Request.maxBytes := by decide +kernel
  obtain ⟨_, _, atRest⟩ := login_verdict given short (s := s) rfl ⟨rfl, rfl⟩
  obtain ⟨x, _, _, running, verdict⟩ := atRest d rfl rfl
  obtain ⟨_, _, _, success, _, _, accepted, _, failed⟩ :=
    verdict.applied (Credentials.blankField?_eq_none.1 (by decide))
  have refused : success = false := by
    rw [Bool.eq_false_iff]
    exact fun h => absurd (accepted.1 h).1 (by decide)
  obtain ⟨exit, same⟩ := failed refused
  have stored := (same none false (Station.shows_iff.2 ⟨rfl, rfl⟩)).1
  refine ⟨exit, ?_⟩
  rw [Daemon.journal, Service.journal, running]
  exact stored

end FocusJournal
