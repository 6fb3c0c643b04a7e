import FocusJournal.Engine.Rehearsed
import FocusJournal.Proofs.Station.Course
import Mathlib.Data.List.Infix
import Mathlib.Data.List.Nodup
import Mathlib.Data.List.Perm.Subperm

/-!
# Answers

Everyone who asks gets an answer at once, and who asks for a login gets another one when the engine has answered the
login. Several logins may be pending, with the same ids, and the engine may answer them in any order; an answer finds
the one who asked because the call carries the asker along and the acknowledgment brings it back.

`requests_answered` says what each asker gets in the course of any acts with any engine that answers each login once at
most: one answer, or for a login a first one and then the engine's verdict if that has been handled.
-/

open scoped List

namespace FocusJournal

/-- The asker whose request an input is. -/
def Input.asker? : Input → Option Asker
  | .control _ _ asker => some asker
  | _ => none

/-- The login that a call asks for, told by the id of the request and the one who asked. -/
def EngineCall.login? : EngineCall → Option (Option String × Asker)
  | .login _ id asker => some (id, asker)
  | _ => none

/-- The login that an input answers. -/
def Input.toldLogin? : Input → Option (Option String × Asker)
  | .loginAcked _ id asker => some (id, asker)
  | _ => none

section

variable (asker : Asker)

/-- The id of a login if it is the asker's. -/
def idFor? (login : Option String × Asker) : Option (Option String) := if login.2 = asker then some login.1 else none

/-- The id of the request if the asker asks for a login. -/
def Input.loginId? : Input → Option (Option String)
  | .control (.login _) id a => idFor? asker (id, a)
  | _ => none

/-- The verdict on a login of the asker's, with the id of the request. -/
def Input.loginVerdict? : Input → Option (Option String × Bool)
  | .loginAcked success id a => if a = asker then some (id, success) else none
  | _ => none

/-- The response, if it is meant for the asker. -/
def Answer.for? (a : Answer) : Option Response := if a.asker = asker then some a.response else none

/-- A response to the asker is for the asker. -/
lemma Answer.for?_self (response : Response) : Answer.for? asker ⟨asker, response⟩ = some response := if_pos rfl

end

/-- The verdict on a login, as it is told. -/
def Response.verdict (v : Option String × Bool) : Response := .truth v.1 v.2

namespace Reporter

variable {r : Reporter}

/-- No focus event is answered. -/
lemma answers_onFocus {event} : (r.onFocus event).2.filterMap Effect.answer? = [] := by
  unfold onFocus
  split <;> rfl

/-- To settle answers nobody. -/
lemma answers_settle {window} : (r.settle window).2.filterMap Effect.answer? = [] := by
  simp only [settle]
  split <;> rfl

/-- The acknowledgment of a start answers nobody. -/
lemma answers_onStartAcked {success origin} : (r.onStartAcked success origin).2.filterMap Effect.answer? = [] := by
  simp only [onStartAcked]
  split
  · exact answers_settle
  · cases success <;> cases origin <;> rfl

end Reporter

/-- Only a request for a login makes the reporter call for one. -/
lemma Reaction.no_login {r r' : Reporter} {i calls} (re : Reaction r i r' calls)
    (hi : ∀ c id asker, i ≠ .control (.login c) id asker) : calls.filterMap EngineCall.login? = [] := by
  cases re with
  | login => exact absurd rfl (hi _ _ _)
  | _ => rfl

namespace Deed

variable {d : Deed} {asker : Asker}

/-- A request is answered at once, and with a pending answer if it is deferred. -/
lemma answers_of_request {control id} (hi : d.input = .control control id asker) :
    ∃ response, d.answers = [⟨asker, response⟩] ∧ response.id = id ∧ response.pending = control.action.isDeferred := by
  rw [answers, hi]
  cases control <;> exact ⟨_, rfl, rfl, rfl⟩

/-- A request for a login is put off, and the engine is asked for it. -/
lemma of_login {c id} (hi : d.input = .control (.login c) id asker) :
    d.answers = [⟨asker, .later id⟩] ∧ d.calls = [.login c id asker] := by
  rw [answers, calls, hi]
  exact ⟨rfl, rfl⟩

/-- Who asks for nothing now is told a verdict at most. -/
lemma answers_for (ha : d.input.asker? ≠ some asker) :
    d.answers.filterMap (Answer.for? asker) = ([d.input].filterMap (Input.loginVerdict? asker)).map Response.verdict := by
  cases hi : d.input with
  | notification n =>
    rw [answers, hi, Reporter.handle]
    split
    · rw [Reporter.answers_onFocus]
      rfl
    · rfl
  | focus event =>
    rw [answers, hi, Reporter.handle, Reporter.answers_onFocus]
    rfl
  | startAcked success origin =>
    rw [answers, hi, Reporter.handle, Reporter.answers_onStartAcked]
    rfl
  | loginAcked success id a =>
    rw [answers, hi, Reporter.handle]
    by_cases h : a = asker <;> simp [Effect.answer?, Answer.for?, Input.loginVerdict?, Response.verdict, h]
  | control control id a =>
    obtain ⟨response, eq, _⟩ := answers_of_request hi
    have other : a ≠ asker := by
      rintro rfl
      exact ha (by rw [hi]; rfl)
    rw [eq]
    simp [Answer.for?, Input.loginVerdict?, other]

/-- A login is called for each request for one, under the id of the request. -/
lemma logins_called :
    (d.calls.filterMap EngineCall.login?).filterMap (idFor? asker) = [d.input].filterMap (Input.loginId? asker) := by
  by_cases hl : ∃ c id a, d.input = .control (.login c) id a
  · obtain ⟨c, id, a, hi⟩ := hl
    rw [(of_login hi).2, hi]
    rfl
  · have none_asked : d.input.loginId? asker = none := by
      unfold Input.loginId?
      split
      · next hi => exact absurd ⟨_, _, _, hi⟩ hl
      · rfl
    rw [d.reaction.no_login (by simpa using hl), List.filterMap_cons_none none_asked]
    rfl

end Deed

namespace Station

variable {ε : Type}

/-- Those whose requests the reporter takes. -/
def Course.askers (h : Course ε) : List Asker := h.inputs.filterMap Input.asker?

/-- An asker who asks for nothing asks for no login. -/
lemma Course.loginIds_of_unasked {h : Course ε} {asker : Asker} (ha : asker ∉ h.askers) :
    h.inputs.filterMap (Input.loginId? asker) = [] := by
  refine List.filterMap_eq_nil_iff.2 fun i hi => ?_
  unfold Input.loginId?
  split
  · next c id a =>
    have other : a ≠ asker := by
      rintro rfl
      exact ha (List.mem_filterMap.2 ⟨_, hi, rfl⟩)
    exact if_neg other
  · rfl

variable [Engine ε]

/-- Who asks for nothing in a moment is told a verdict at most. -/
lemma Moment.answers_for {m : Moment ε} {asker : Asker}
    (ha : asker ∉ m.input?.toList.filterMap Input.asker?) :
    m.done.answers.filterMap (Answer.for? asker) =
      (m.input?.toList.filterMap (Input.loginVerdict? asker)).map Response.verdict := by
  cases hi : m.input? with
  | none =>
    rw [(of_idle hi).2.2]
    rfl
  | some i =>
    rw [(of_input hi).2]
    refine (m.before.deed i).answers_for ?_
    rintro (asks : i.asker? = some asker)
    exact ha (by simp [hi, asks])

namespace Course

variable (asker : Asker) (h : Course ε)

/-- What an asker is told, in order. -/
def responses : List Response := h.flatMap fun m => m.done.answers.filterMap (Answer.for? asker)

/-- The engine's verdicts on an asker's logins. -/
def verdicts : List (Option String × Bool) := h.posted.filterMap (Input.loginVerdict? asker)

/-- Those of them that are handled. -/
def toldVerdicts : List (Option String × Bool) := h.inputs.filterMap (Input.loginVerdict? asker)

/-- The engine answers nothing but the logins that it was asked for until then, each once at most. -/
def LoginsAnsweredOnce : Prop :=
  ∀ h₁ : Course ε, h₁ <+: h → h₁.posted.filterMap Input.toldLogin? <+~ h₁.calls.filterMap EngineCall.login?

variable {asker : Asker} {h : Course ε}

/-- Who asks for nothing is answered nothing but verdicts. -/
lemma responses_of_unasked (ha : asker ∉ h.askers) :
    h.responses asker = (h.toldVerdicts asker).map Response.verdict := by
  induction h with
  | nil => rfl
  | cons m h ih =>
    rw [askers, inputs, List.flatMap_cons, List.filterMap_append, List.mem_append, not_or] at ha
    rw [responses, List.flatMap_cons, Moment.answers_for ha.1, toldVerdicts, inputs, List.flatMap_cons, List.filterMap_append,
      List.map_append]
    exact congrArg _ (ih ha.2)

/-- The reporter calls for the logins that it is asked for. -/
lemma logins_called :
    (h.calls.filterMap EngineCall.login?).filterMap (idFor? asker) = h.inputs.filterMap (Input.loginId? asker) := by
  induction h with
  | nil => rfl
  | cons m h ih =>
    have first : (m.done.calls.filterMap EngineCall.login?).filterMap (idFor? asker) =
        m.input?.toList.filterMap (Input.loginId? asker) := by
      cases hi : m.input? with
      | none =>
        rw [(Moment.of_idle hi).2.2]
        rfl
      | some i =>
        rw [(Moment.of_input hi).2]
        exact (m.before.deed i).logins_called
    rw [calls, List.flatMap_cons, List.filterMap_append, List.filterMap_append, first, inputs, List.flatMap_cons,
      List.filterMap_append]
    exact congrArg _ ih

/-- Who is answered by the engine has asked for a login. -/
lemma LoginsAnsweredOnce.verdicts_subperm (once : LoginsAnsweredOnce h) (asker : Asker) {h₁ : Course ε}
    (hp : h₁ <+: h) :
    (h₁.verdicts asker).map Prod.fst <+~ h₁.inputs.filterMap (Input.loginId? asker) := by
  have ids : (h₁.verdicts asker).map Prod.fst = (h₁.posted.filterMap Input.toldLogin?).filterMap (idFor? asker) := by
    rw [verdicts, List.map_filterMap, List.filterMap_filterMap]
    congr
    funext i
    cases i with
    | loginAcked success id a => by_cases h : a = asker <;> simp [Input.loginVerdict?, Input.toldLogin?, idFor?, h]
    | _ => rfl
  -- What was called for the asker is what the asker requested, so the assumption on the engine can be cut down to them.
  rw [ids, ← logins_called]
  obtain ⟨l, perm, sub⟩ := once h₁ hp
  exact ⟨l.filterMap (idFor? asker), perm.filterMap _, sub.filterMap _⟩

end Course

variable {s : Station ε} {acts : List (Act ε)} {later : Course ε} {asker : Asker}

/-- The engine's verdicts are handled in their order, and the rest of them waits in the inbox. -/
lemma toldVerdicts_append_waiting (hs : s.inbox = []) (outside : ∀ i, .take i ∈ acts → i.isAcknowledgment = false) :
    (s.course acts).toldVerdicts asker ++ (s.afterAll acts).inbox.filterMap (Input.loginVerdict? asker) =
      (s.course acts).verdicts asker := by
  have conserved := inputs_append_inbox (s := s) (f := Input.loginVerdict? asker) fun i hi => by
    have ha := outside i hi
    cases i with
    | loginAcked => cases ha
    | _ => rfl
  rw [hs] at conserved
  exact conserved

/-- Who has not asked for anything yet has been told nothing. -/
lemma toldVerdicts_of_unasked (hs : s.inbox = []) (outside : ∀ i, .take i ∈ acts → i.isAcknowledgment = false)
    (once : Course.LoginsAnsweredOnce (s.course acts ++ later)) (ha : asker ∉ (s.course acts).askers) :
    (s.course acts).toldVerdicts asker = [] := by
  have nothing : (s.course acts).verdicts asker = [] := by
    have called := once.verdicts_subperm asker (List.prefix_append _ _)
    rw [Course.loginIds_of_unasked ha] at called
    exact List.map_eq_nil_iff.1 (List.subperm_nil.1 called)
  rw [← toldVerdicts_append_waiting hs outside] at nothing
  exact (List.append_eq_nil_iff.1 nothing).1

/-- What someone who asks is answered: something at once, and then what the engine answers. -/
lemma responses_of_request {m control id} (hs : s.inbox = [])
    (outside : ∀ i, .take i ∈ acts → i.isAcknowledgment = false) (own : (s.course acts).askers.Nodup)
    (once : (s.course acts).LoginsAnsweredOnce) (hm : m ∈ s.course acts)
    (hi : m.input? = some (.control control id asker)) :
    ((s.course acts).verdicts asker).map Prod.fst <+~
        [Input.control control id asker].filterMap (Input.loginId? asker) ∧
      (s.course acts).responses asker =
        m.done.answers.filterMap (Answer.for? asker) ++ ((s.course acts).toldVerdicts asker).map Response.verdict := by
  obtain ⟨acts₁, acts₂, later, rfl, eq⟩ := course_cut hm
  have inputs : (s.course (acts₁ ++ acts₂)).inputs =
      (s.course acts₁).inputs ++ .control control id asker :: later.inputs := by
    simp [eq, Course.inputs, hi]
  -- No other request is the asker's, so on either side of this one `asker` counts as unasked.
  have apart : asker ∉ (s.course acts₁).askers ++ later.askers := by
    have asked : Input.asker? (.control control id asker) = some asker := rfl
    rw [Course.askers, inputs, List.filterMap_append, List.filterMap_cons_some asked, List.nodup_middle] at own
    exact (List.nodup_cons.1 own).1
  obtain ⟨before, after⟩ := not_or.1 (mt List.mem_append.2 apart)
  constructor
  · have called := once.verdicts_subperm asker List.prefix_rfl
    rw [inputs, List.filterMap_append, ← List.singleton_append, List.filterMap_append, Course.loginIds_of_unasked before,
      Course.loginIds_of_unasked after, List.append_nil, List.nil_append] at called
    exact called
  · have nothing := toldVerdicts_of_unasked hs (fun i hi => outside i (List.mem_append_left _ hi)) (eq ▸ once) before
    have told : (s.course (acts₁ ++ acts₂)).toldVerdicts asker = later.toldVerdicts asker := by
      rw [Course.toldVerdicts, inputs, List.filterMap_append, List.filterMap_cons_none rfl]
      exact congrArg (· ++ _) nothing
    have first := Course.responses_of_unasked before
    have rest := Course.responses_of_unasked after
    rw [nothing] at first
    rw [told, eq, Course.responses, List.flatMap_append, List.flatMap_cons, ← rest]
    exact congrArg (· ++ _) first

/-- One verdict at most can be paired with one id. -/
lemma exists_verdict {verdicts : List (Option String × Bool)} {id} (h : verdicts.map Prod.fst <+~ [id]) :
    ∃ verdict? : Option Bool, verdicts = verdict?.toList.map (id, ·) := by
  match verdicts with
  | [] => exact ⟨none, rfl⟩
  | [(id', success)] =>
    obtain rfl : id' = id := List.mem_singleton.1 (h.subset (List.mem_singleton_self _))
    exact ⟨some success, rfl⟩
  | _ :: _ :: _ => simpa using h.length_le

/-- In the course of any acts, with any engine that answers each login once at most, whoever asks is answered at once
with the id of the request. That is all that they are answered, unless they ask for a login: then the first answer says
that the result is pending, and when the engine's verdict on that login has been handled it is the second and last one,
with the same id. Until then it waits in the inbox. Who does not ask is answered nothing. -/
theorem requests_answered {platform : Platform} {engine : ε}
    (outside : ∀ i, .take i ∈ acts → i.isAcknowledgment = false)
    (own : ((start platform engine).course acts).askers.Nodup)
    (once : ((start platform engine).course acts).LoginsAnsweredOnce) :
    let h := (start platform engine).course acts
    let inbox := ((start platform engine).afterAll acts).inbox
    (∀ m ∈ h, ∀ control id asker, m.input? = some (.control control id asker) → control.action ≠ .login →
      ∃ response, m.done.answers = [⟨asker, response⟩] ∧ response.id = id ∧ response.pending = false ∧
        h.responses asker = [response]) ∧
    (∀ m ∈ h, ∀ c id asker, m.input? = some (.control (.login c) id asker) →
      m.done = ⟨[⟨asker, .later id⟩], [.login c id asker]⟩ ∧
      ∃ verdict? : Option Bool, h.verdicts asker = verdict?.toList.map (id, ·) ∧
        h.toldVerdicts asker ++ inbox.filterMap (Input.loginVerdict? asker) = h.verdicts asker ∧
        h.responses asker = .later id :: (h.toldVerdicts asker).map Response.verdict) ∧
    ∀ asker ∉ h.askers, h.responses asker = [] := by
  intro h inbox
  have told (asker) : h.toldVerdicts asker ++ inbox.filterMap (Input.loginVerdict? asker) = h.verdicts asker :=
    toldVerdicts_append_waiting rfl outside
  refine ⟨?_, ?_, ?_⟩
  · intro m hm control id asker hi hl
    obtain ⟨called, responses⟩ := responses_of_request rfl outside own once hm hi
    obtain ⟨response, answers, hid, pending⟩ :=
      Deed.answers_of_request (d := m.before.deed (.control control id asker)) rfl
    have done : m.done.answers = [⟨asker, response⟩] := by rw [(Moment.of_input hi).2, answers]
    have no_login : Input.loginId? asker (.control control id asker) = none := by
      cases control with
      | login c => exact absurd rfl hl
      | _ => rfl
    -- The engine cannot answer what it was not called for.
    have no_verdict : h.verdicts asker = [] := by
      rw [List.filterMap_cons_none no_login] at called
      exact List.map_eq_nil_iff.1 (List.subperm_nil.1 called)
    have not_told := told asker
    rw [no_verdict, List.append_eq_nil_iff] at not_told
    refine ⟨response, done, hid, ?_, ?_⟩
    · rw [pending]
      exact decide_eq_false hl
    · rw [responses, done, not_told.1, List.filterMap_cons_some (Answer.for?_self _ _)]
      rfl
  · intro m hm c id asker hi
    obtain ⟨called, responses⟩ := responses_of_request rfl outside own once hm hi
    obtain ⟨answers, calls⟩ := Deed.of_login (d := m.before.deed (.control (.login c) id asker)) rfl
    have done : m.done = ⟨[⟨asker, .later id⟩], [.login c id asker]⟩ := by rw [(Moment.of_input hi).2, answers, calls]
    have login : [Input.control (.login c) id asker].filterMap (Input.loginId? asker) = [id] := by
      simp [Input.loginId?, idFor?]
    rw [login] at called
    obtain ⟨verdict?, eq⟩ := exists_verdict called
    refine ⟨done, verdict?, eq, told asker, ?_⟩
    rw [responses, done, List.filterMap_cons_some (Answer.for?_self _ _)]
    rfl
  · intro asker ha
    have nothing := toldVerdicts_of_unasked rfl outside (by rwa [List.append_nil]) ha
    rw [Course.responses_of_unasked ha, nothing]
    rfl

/-- The engine answers a login that it has held back, told by its place. -/
def release (place : Nat) (success : Bool) : Act RehearsedEngine :=
  .stir fun e => ((e.releaseLogin? place success).map fun (e, i) => (e, [i])).getD (e, [])

/-- Credentials without a blank field. -/
def account : Credentials := ⟨"srv", "u", "p", "dev"⟩

/-- Two logins and a question with one and the same id; the engine answers the second login first. -/
def crossedLogins : List (Act RehearsedEngine) := [
  .take (.control (.login account) (some "r") 0), .take (.control (.login account) (some "r") 1),
  .take (.control .isTracking (some "r") 2),
  release 1 true, .next, release 0 false, .next]

/-- Each login gets its own verdict. -/
theorem requests_answered_crossedLogins :
    let h := (start ⟨"linux"⟩ { RehearsedEngine.initial with holdLogins := true }).course crossedLogins
    h.responses 0 = [.later (some "r"), .truth (some "r") false] ∧
      h.responses 1 = [.later (some "r"), .truth (some "r") true] ∧
      (∃ response, h.responses 2 = [response] ∧ response.id = some "r" ∧ response.pending = false) ∧
      h.responses 3 = [] := by
  intro h
  have once : h.LoginsAnsweredOnce := by
    -- The beginnings of one course are finitely many and can be looked through.
    have all : ∀ h₁ ∈ h.inits, (Course.posted h₁).filterMap Input.toldLogin? <+~
        (Course.calls h₁).filterMap EngineCall.login? := by
      decide
    intro h₁ hp
    exact all h₁ ((List.mem_inits _ _).2 hp)
  have outside : ∀ i, .take i ∈ crossedLogins → i.isAcknowledgment = false := by
    simp [crossedLogins, release, Input.isAcknowledgment]
  obtain ⟨questions, logins, others⟩ := requests_answered outside (by decide) once
  obtain ⟨_, _, _, _, first⟩ := logins _ (.head _) account (some "r") 0 rfl
  obtain ⟨_, _, _, _, second⟩ := logins _ (.tail _ (.head _)) account (some "r") 1 rfl
  obtain ⟨response, _, hid, hp, third⟩ := questions _ (.tail _ (.tail _ (.head _))) .isTracking (some "r") 2 rfl (by decide)
  have told₀ : h.toldVerdicts 0 = [(some "r", false)] := by decide
  have told₁ : h.toldVerdicts 1 = [(some "r", true)] := by decide
  rw [told₀] at first
  rw [told₁] at second
  exact ⟨first, second, ⟨response, third, hid, hp⟩, others 3 (by decide)⟩

end Station

end FocusJournal
