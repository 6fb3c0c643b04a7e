import FocusJournal.Connection.Service
import FocusJournal.Proofs.Browser.Checked
import FocusJournal.Proofs.Message.Control
import Mathlib.Logic.ExistsUnique

/-!
# How a connection ends

What a connection does is a `Visit`: the inputs it posts to the reporter and the lines it writes. There are four ways
for it to end, the `Verdict`s, and each connection ends in exactly one of them (`Service.connect_verdict`): either
something is posted or the request was rejected, never both, and at most one line that is not pending is written.

A visit is given by the errand that its request comes to (`Errand.visit`), whatever the reporter answers;
`Service.run_eq` says that this is what a connection to a running service does.
-/

namespace FocusJournal

/-- What a connection posts to the reporter and what it writes. -/
structure Visit where
  posted : List Input
  written : List Response

namespace Errand

/-- What an errand has the reporter told. -/
def posted (asker : Asker) : Errand → List Input
  | refuse _ => []
  | ignore => []
  | notify n => [.notification n]
  | ask control id => [.control control id asker]

/-- The lines of an errand, where the reporter gives answers to what it is asked and then no more. -/
def written (answers : List Response) (silence : Silence) : Errand → List Response
  | refuse response => [response]
  | ignore => []
  | notify _ => [.accepted]
  | ask _ id => (relay id silence answers).1

/-- The visit for an errand. -/
def visit (errand : Errand) (asker : Asker) (answers : List Response) (silence : Silence) : Visit :=
  ⟨errand.posted asker, errand.written answers silence⟩

end Errand

/-- The request that was received, if it is one. -/
def Envelope.of? (received : Except Refusal (List UInt8)) : Option Envelope :=
  match received with
  | .error _ => none
  | .ok line => (parse line).toOption

/-- The id of a control request; nothing else has one. -/
def Envelope.id? : Option Envelope → Option String
  | some (.control request) => request.id
  | _ => none

/-- The request is of no version or of the one that is known. -/
def ControlRequest.Supported (request : ControlRequest) : Prop :=
  request.version = none ∨ request.version = some protocolVersion

/-- How a connection ends. -/
inductive Verdict where
  /-- The request is refused. -/
  | rejected
  /-- The request is for an action that is not known, and nothing is done about it. -/
  | dropped
  /-- A notification is passed on. -/
  | noted
  /-- The reporter is asked, and its answers are passed back. -/
  | asked

/-- A visit for a request ends in a verdict: what is then posted and written, and for what requests. -/
def Verdict.Meets (request? : Option Envelope) (asker : Asker) (v : Visit) : Verdict → Prop
  | rejected =>
    v.posted = [] ∧ (∃ r, v.written = [r] ∧ r.ok = false ∧ r.id = Envelope.id? request?) ∧
      (∀ n, request? ≠ some (.notification n)) ∧
      ∀ request, request? = some (.control request) → ∃ reason, request.check = .error reason
  | dropped =>
    v.posted = [] ∧ v.written = [] ∧ ∃ request, request? = some (.control request) ∧ request.Supported ∧
      Action.ofName? request.action = none
  | noted =>
    ∃ n, request? = some (.notification n) ∧ n.check = .ok () ∧ v.posted = [.notification n] ∧ v.written = [.accepted]
  | asked =>
    ∃ request control, request? = some (.control request) ∧ request.check = .ok (some control) ∧
      request.Supported ∧ control.action.name = request.action ∧
      (∀ c, control = .login c → c.blankField? = none) ∧ v.posted = [.control control request.id asker] ∧
      ∃ before last, v.written = before ++ [last] ∧ (∀ r ∈ before, r.pending = true) ∧ last.pending = false

/-! ## Requests -/

/-- A notification that is parsed passes its own check. -/
lemma Envelope.check_of_parse {line : List UInt8} {n : Notification} (h : parse line = .ok (.notification n)) :
    n.check = .ok () := by
  rw [parse] at h
  split at h
  · cases h
  unfold ofJson at h
  split at h
  · split at h
    · split at h <;> cases h
    split at h
    · next members _ _ _ =>
      cases hp : Notification.parse (.object members) with
      | error r => rw [hp] at h; cases h
      | ok m =>
        rw [hp] at h
        obtain rfl : m = n := by simpa [Except.map] using h
        exact Notification.check_of_parse hp
    · cases h
  · cases h

/-- Credentials that are read from a payload have no blank field. -/
lemma Credentials.blankField?_of_ofJson {payload : Json} {c : Credentials} (h : ofJson payload = .ok c) :
    c.blankField? = none := by
  rw [ofJson] at h
  split at h
  · cases h
  split at h
  · cases h
  · next hb =>
    rw [← Except.ok.inj h]
    exact hb

/-- A request that is not refused is of a supported version, and what it comes to is the action of its name. -/
lemma ControlRequest.of_check {request : ControlRequest} {control? : Option Control}
    (h : request.check = .ok control?) :
    request.Supported ∧ Action.ofName? request.action = control?.map Control.action ∧
      ∀ c, control? = some (.login c) → c.blankField? = none := by
  have supported : request.Supported := by
    rw [check] at h
    cases hv : request.version with
    | none => exact .inl hv
    | some version =>
      simp only [hv] at h
      split at h
      · next known => exact .inr (known ▸ hv)
      · cases h
  refine ⟨supported, ?_⟩
  have vocabulary : request.check = { request with version := none }.check := by
    rcases supported with hv | hv
    · simp only [check, hv]
    · simp only [check, hv, if_true]
  rw [vocabulary, check] at h
  simp only at h
  cases ha : Action.ofName? request.action with
  | none =>
    rw [ha] at h
    cases h
    exact ⟨rfl, fun c hc => by cases hc⟩
  | some action =>
    rw [ha] at h
    cases action with
    | login =>
      cases hp : request.payload with
      | none => rw [hp] at h; cases h
      | some payload =>
        cases hc : Credentials.ofJson payload with
        | error reason => simp [hp, hc, Except.map] at h
        | ok c =>
          simp only [hp, hc, Except.map, Except.ok.injEq] at h
          cases h
          refine ⟨rfl, fun d hd => ?_⟩
          cases hd
          exact Credentials.blankField?_of_ofJson hc
    | startTracking | stopTracking | getTracking | checkLogin | isTracking =>
      cases h
      exact ⟨rfl, fun c hc => by cases hc⟩

/-- A relay writes pending lines and then one that is not. -/
lemma exists_relay (id : Option String) (silence : Silence) (answers : List Response) :
    ∃ before last, (relay id silence answers).1 = before ++ [last] ∧ (∀ r ∈ before, r.pending = true) ∧
      last.pending = false := by
  induction answers with
  | nil => exact ⟨[], _, rfl, fun _ h => (List.not_mem_nil h).elim, rfl⟩
  | cons answer answers ih =>
    obtain ⟨before, last, written, pending, final⟩ := ih
    rw [relay]
    cases hp : answer.pending with
    | true =>
      refine ⟨answer :: before, last, by simp [written], ?_, final⟩
      intro r hr
      rcases List.mem_cons.1 hr with rfl | hr
      · exact hp
      · exact pending r hr
    | false => exact ⟨[], answer, rfl, fun _ h => (List.not_mem_nil h).elim, hp⟩

/-- An action that is read from a name has that name. -/
lemma Action.name_of_ofName? {name : String} {a : Action} (h : ofName? name = some a) : a.name = name := by
  simpa using List.find?_some h

/-! ## The verdict -/

/-- The verdict that shows in what was posted and what was written. -/
def Visit.verdict (v : Visit) : Verdict :=
  match v.posted, v.written with
  | [], [] => .dropped
  | [], _ :: _ => .rejected
  | .notification _ :: _, _ => .noted
  | _ :: _, _ => .asked

namespace Verdict

/-- No visit ends in a way that does not show. -/
lemma Meets.eq_verdict {request? : Option Envelope} {asker : Asker} {v : Visit} {verdict : Verdict}
    (h : verdict.Meets request? asker v) : verdict = v.verdict := by
  cases verdict with
  | rejected =>
    obtain ⟨posted, ⟨r, written, _⟩, _⟩ := h
    rw [Visit.verdict, posted, written]
  | dropped =>
    obtain ⟨posted, written, _⟩ := h
    rw [Visit.verdict, posted, written]
  | noted =>
    obtain ⟨n, _, _, posted, written⟩ := h
    rw [Visit.verdict, posted, written]
  | asked =>
    obtain ⟨request, control, _, _, _, _, _, posted, _⟩ := h
    rw [Visit.verdict, posted]

/-- A control request is rejected, dropped or asked, as it is checked. -/
lemma exists_ofControl (request : ControlRequest) (asker : Asker) (answers : List Response) (silence : Silence) :
    ∃ verdict : Verdict, verdict.Meets (some (.control request)) asker
      ((Errand.ofEnvelope (.control request)).visit asker answers silence) := by
  rw [Errand.ofEnvelope]
  cases hc : request.check with
  | error reason =>
    refine ⟨rejected, rfl, ⟨_, rfl, rfl, rfl⟩, nofun, fun other same => ?_⟩
    cases same
    exact ⟨reason, hc⟩
  | ok control? =>
    obtain ⟨supported, named, nonblank⟩ := ControlRequest.of_check hc
    cases control? with
    | none => exact ⟨dropped, rfl, rfl, request, rfl, supported, named⟩
    | some control =>
      exact ⟨asked, request, control, rfl, hc, supported, Action.name_of_ofName? named,
        fun c same => nonblank c (congrArg some same), rfl, exists_relay _ _ _⟩

/-- What could not be read is rejected. -/
lemma rejected_of_unread (reason : Refusal) (asker : Asker) (answers : List Response) (silence : Silence) :
    rejected.Meets none asker ((Errand.refuse (.refused none reason)).visit asker answers silence) := by
  refine ⟨rfl, ⟨_, rfl, rfl, rfl⟩, fun n => (Option.some_ne_none _).symm, fun request read => ?_⟩
  cases read

/-- Every visit ends in some way. -/
lemma exists_ofReceived (received : Except Refusal (List UInt8)) (asker : Asker) (answers : List Response)
    (silence : Silence) : ∃ verdict : Verdict, verdict.Meets (Envelope.of? received) asker
      ((Errand.ofReceived received).visit asker answers silence) := by
  cases received with
  | error reason => exact ⟨_, rejected_of_unread reason asker answers silence⟩
  | ok line =>
    simp only [Errand.ofReceived, Envelope.of?]
    cases hp : Envelope.parse line with
    | error reason => exact ⟨_, rejected_of_unread reason asker answers silence⟩
    | ok envelope =>
      cases envelope with
      | notification n => exact ⟨noted, n, rfl, Envelope.check_of_parse hp, rfl, rfl⟩
      | control request => exact exists_ofControl request asker answers silence

end Verdict

namespace Service

/-- What a running reporter answers to an errand. -/
def answers (s : Service) (stalled : Bool) : Errand → List Response
  | .ask control id =>
    if stalled then []
    else ((s.feed (.control control id s.nextAsker)).2.answers.filter fun a => a.asker = s.nextAsker).map Answer.response
  | _ => []

/-- The visit of a connection to a running reporter. -/
def visit (s : Service) (stalled : Bool) (errand : Errand) : Visit :=
  errand.visit s.nextAsker (s.answers stalled errand) .waiting

/-- A running service posts what a visit posts and settles after each of it, and writes what the visit writes. -/
lemma run_eq {s : Service} {station : Station JournalEngine} (running : s.status = .running station) (stalled : Bool)
    (errand : Errand) :
    (s.run stalled errand).1.station? =
        some ((s.visit stalled errand).posted.foldl (fun station i => (station.post i).settle.1) station) ∧
      (s.run stalled errand).2 = (s.visit stalled errand).written := by
  cases errand with
  | refuse response => simp [run, visit, Errand.visit, Errand.posted, Errand.written, station?, running]
  | ignore => simp [run, visit, Errand.visit, Errand.posted, Errand.written, station?, running]
  | notify n => simp [run, notify, feed, visit, Errand.visit, Errand.posted, Errand.written, station?, running]
  | ask control id => simp [run, ask, feed, visit, Errand.visit, Errand.posted, Errand.written, answers, station?, running]

/-- A connection to a running reporter posts and writes what its visit says, and whatever the reporter answers, the
connection ends in exactly one way. -/
theorem connect_verdict {s : Service} {station : Station JournalEngine} (running : s.status = .running station)
    (reads : List (List UInt8)) (ending : Request.Ending) (stalled : Bool) :
    let received := Request.receive ending reads
    let errand := Errand.ofReceived received
    (s.connect reads ending stalled).1.station? =
        some ((s.visit stalled errand).posted.foldl (fun station i => (station.post i).settle.1) station) ∧
      (s.connect reads ending stalled).2 = (s.visit stalled errand).written ∧
      ∀ answers silence, ∃! verdict : Verdict,
        verdict.Meets (Envelope.of? received) s.nextAsker (errand.visit s.nextAsker answers silence) := by
  intro received errand
  obtain ⟨after, written⟩ := run_eq running stalled errand
  refine ⟨after, written, fun answers silence => ?_⟩
  obtain ⟨verdict, meets⟩ := Verdict.exists_ofReceived received s.nextAsker answers silence
  exact ⟨verdict, meets, fun other h => h.eq_verdict.trans meets.eq_verdict.symm⟩

/-- A question that comes in two reads, to which the reporter could answer more than once. -/
theorem connect_verdict_isTracking :
    let s : Service := .start ⟨"linux"⟩ .fresh
    let reads := [Text.bytesOf "\x7b\"action\":", Text.bytesOf "\"IS_TRACKING\"\x7d\n"]
    let received := Request.receive .closed reads
    (s.connect reads .closed false).2 = [.truth none false] ∧
      ∃! verdict : Verdict, verdict.Meets (Envelope.of? received) s.nextAsker
        ((Errand.ofReceived received).visit s.nextAsker [.later none, .truth none true, .ack none] .gone) := by
  intro s reads received
  let engine : JournalEngine := ⟨⟨.fresh, false, false, none⟩, [], true⟩
  let request : ControlRequest := ⟨"IS_TRACKING", none, none, none⟩
  have running : s.status = .running (.start ⟨"linux"⟩ engine) := rfl
  have portable : request.Portable := ⟨nofun, nofun, by decide⟩
  have line : received = .ok (Text.encode request.toJson.chars) :=
    ControlRequest.receive_toJson portable (by decide +kernel) (by decide +kernel)
  have asked : Errand.ofReceived received = .ask .isTracking none := by
    rw [line, Errand.ofReceived]
    simp only [ControlRequest.parse_received portable]
    rfl
  have answered : (s.connect reads .closed false).2 = (s.run false (.ask .isTracking none)).2 :=
    congrArg (fun errand => (s.run false errand).2) asked
  exact ⟨answered, (connect_verdict running reads .closed false).2.2 _ _⟩

end Service

end FocusJournal
