import FocusJournal.Proofs.Station.Answers
import FocusJournal.Proofs.Station.Settling

/-!
# A login alone

What a login comes to if no other one is on its way: `login_alone`. The request waits in the inbox, the call in the queue,
the verdict in the inbox again, and meanwhile anything else may happen. Once the asker has the last answer, the registration
and what the reporter says of logins are those that the verdict calls for, and the verdict is what the engine made of the
login when it applied it.
-/

open scoped List

namespace FocusJournal

/-- Whether an input asks for a login. -/
def Input.isLogin : Input → Bool
  | .control (.login _) _ _ => true
  | _ => false

/-- Whether an input answers a login. -/
def Input.isVerdict : Input → Bool
  | .loginAcked _ _ _ => true
  | _ => false

/-- Whether a call is for a login. -/
def EngineCall.isLogin : EngineCall → Bool
  | .login _ _ _ => true
  | _ => false

/-- A verdict comes from the engine alone. -/
lemma Input.isVerdict_of_posted {i : Input} (hi : i.isAcknowledgment = false) : i.isVerdict = false := by
  cases i with
  | loginAcked => cases hi
  | _ => rfl

/-- Only a request for a login makes the reporter call for one. -/
lemma Reaction.calls_no_login {r r' : Reporter} {i calls} (re : Reaction r i r' calls) (hi : i.isLogin = false) :
    calls.filter EngineCall.isLogin = [] := by
  cases re with
  | login => cases hi
  | _ => rfl

/-- What comes before and after the only element that is kept. -/
lemma exists_of_filter_filterMap {α β : Type} {f : α → Option β} {p : β → Bool} {l : List α} {b : β}
    (h : (l.filterMap f).filter p = [b]) :
    ∃ l₁ a l₂, l = l₁ ++ a :: l₂ ∧ (l₁.filterMap f).filter p = [] ∧ f a = some b ∧ (l₂.filterMap f).filter p = [] := by
  rw [List.filter_filterMap, List.filterMap_eq_cons_iff] at h
  obtain ⟨l₁, a, l₂, rfl, before, here, after⟩ := h
  refine ⟨l₁, a, l₂, rfl, ?_, (Option.filter_eq_some_iff.1 here).1, ?_⟩
  · rw [List.filter_filterMap]
    exact List.filterMap_eq_nil_iff.2 before
  · rw [List.filter_filterMap]
    exact after

namespace Station

/-- The acknowledgments that the engine posts in an event. -/
def Event.posted : Event → List Input
  | .applied c success => c.acknowledgment success
  | .handled _ _ => []

namespace Trace

/-- The acknowledgments that the engine posted. -/
def posted (t : Trace) : List Input := t.flatMap Event.posted

/-- What an asker is told, in order. -/
def responses (asker : Asker) (t : Trace) : List Response := t.replies.filterMap (Answer.for? asker)

variable (t t' : Trace)

/-- The acknowledgments of a longer trace are those of its parts. -/
@[simp] lemma posted_append : posted (t ++ t') = t.posted ++ t'.posted := List.flatMap_append

/-- The responses in a longer trace are those in its parts. -/
@[simp] lemma responses_append (asker : Asker) : responses asker (t ++ t') = t.responses asker ++ t'.responses asker := by
  simp [responses]

end Trace

section

variable {s s' : Station JournalEngine} {t e : Trace} {asker : Asker}

/-- The verdicts that are posted in a step join those that wait, and the one that is handled leaves them. -/
lemma Step.verdicts_eq (st : Step s e s') (alive : s.engine.alive = true) :
    s.inbox.filter Input.isVerdict ++ (Trace.posted e).filter Input.isVerdict =
      (Trace.inputs e).filter Input.isVerdict ++ s'.inbox.filter Input.isVerdict := by
  cases st with
  | @post i hi => simp [Trace.posted, Trace.inputs, turn, Station.post, Input.isVerdict_of_posted hi]
  | @handle i rest hi =>
    rw [turn_deed alive hi, hi, Trace.posted, Trace.inputs, ← List.singleton_append, List.filter_append]
    simp [Event.posted, Event.input?]
  | @work c rest hq =>
    rw [turn_work hq]
    simp [Trace.posted, Trace.inputs, Event.posted, Event.input?]
  | disk => simp [Trace.posted, Trace.inputs, onDisk]

namespace Run

/-- Verdicts are handled once each and in the order in which they are posted. -/
lemma verdicts_eq (run : Run s t s') (alive : s.engine.alive = true) :
    s.inbox.filter Input.isVerdict ++ t.posted.filter Input.isVerdict =
      t.inputs.filter Input.isVerdict ++ s'.inbox.filter Input.isVerdict := by
  induction run with
  | refl => simp [Trace.posted, Trace.inputs]
  | step run st ih =>
    rw [Trace.posted_append, Trace.inputs_append, List.filter_append, List.filter_append, ← List.append_assoc, ih,
      List.append_assoc, List.append_assoc, st.verdicts_eq (run.alive alive)]

/-- The reporter knows of a login once an input has told it. -/
lemma loggedIn_eq (run : Run s t s') (alive : s.engine.alive = true) :
    s'.reporter.loggedIn = (s.reporter.loggedIn || t.inputs.any Input.admits) := by
  induction run with
  | refl => simp [Trace.inputs]
  | @step t s₁ e s₂ run st ih =>
    rw [Trace.inputs_append, List.any_append, ← Bool.or_assoc, ← ih]
    cases st with
    | post _ => simp [Trace.inputs, turn, Station.post]
    | @handle i rest hi =>
      rw [turn_deed (run.alive alive) hi, Deed.loggedIn_eq]
      simp [Trace.inputs, Event.input?, deed]
    | work hq =>
      rw [turn_work hq]
      simp [Trace.inputs, Event.input?]
    | disk => simp [Trace.inputs, onDisk]

/-- Nobody else makes the reporter call for a login than those who ask for one. -/
lemma calls_no_login (run : Run s t s') (alive : s.engine.alive = true) (ht : ∀ i ∈ t.inputs, i.isLogin = false) :
    t.calls.filter EngineCall.isLogin = [] := by
  induction run with
  | refl => rfl
  | @step t s₁ e s₂ run st ih =>
    rw [Trace.inputs_append, List.forall_mem_append] at ht
    rw [Trace.calls_append, List.filter_append, ih ht.1, List.nil_append]
    cases st with
    | post _ => rfl
    | @handle i rest hi =>
      rw [turn_deed (run.alive alive) hi] at ht ⊢
      simpa [Trace.calls, Event.calls] using (s₁.deed i).reaction.calls_no_login (ht.2 i (by simp [Trace.inputs, Event.input?]))
    | work _ => rfl
    | disk => rfl

/-- Who asks for nothing is answered nothing but verdicts. -/
lemma responses_of_unasked (run : Run s t s') (alive : s.engine.alive = true)
    (ht : ∀ i ∈ t.inputs, i.asker? ≠ some asker) :
    t.responses asker = (t.inputs.filterMap (Input.loginVerdict? asker)).map Response.verdict := by
  induction run with
  | refl => rfl
  | @step t s₁ e s₂ run st ih =>
    rw [Trace.inputs_append, List.forall_mem_append] at ht
    rw [Trace.responses_append, Trace.inputs_append, List.filterMap_append, List.map_append, ih ht.1]
    congr 1
    cases st with
    | post _ => rfl
    | @handle i rest hi =>
      rw [turn_deed (run.alive alive) hi] at ht ⊢
      have told : (s₁.deed i).answers.filterMap (Answer.for? asker) =
          ([i].filterMap (Input.loginVerdict? asker)).map Response.verdict :=
        Deed.answers_for (ht.2 i (by simp [Trace.inputs, Event.input?]))
      simpa [Trace.responses, Trace.replies, Event.replies, Trace.inputs, Event.input?] using told
    | work _ => rfl
    | disk => rfl

end Run

/-- Where no login is applied, no verdict is posted and none is accepted. -/
lemma Trace.of_no_login (ht : t.applied.filter EngineCall.isLogin = []) :
    t.posted.filter Input.isVerdict = [] ∧ t.accepted = [] := by
  induction t with
  | nil => exact ⟨rfl, rfl⟩
  | cons x t ih =>
    rw [← List.singleton_append, Trace.applied_append, List.filter_append, List.append_eq_nil_iff] at ht
    obtain ⟨posted, accepted⟩ := ih ht.2
    rw [← List.singleton_append, Trace.posted_append, Trace.accepted_append, List.filter_append, posted, accepted]
    cases x with
    | handled _ _ => exact ⟨rfl, rfl⟩
    | applied c success =>
      cases c with
      | login => cases ht.1
      | _ => exact ⟨rfl, rfl⟩

/-- Where one login is applied, its verdict is posted and no other. -/
lemma Trace.of_one_login {c id} (ht : t.applied.filter EngineCall.isLogin = [.login c id asker]) :
    ∃ t₁ success t₂, t = t₁ ++ .applied (.login c id asker) success :: t₂ ∧
      t.posted.filter Input.isVerdict = [.loginAcked success id asker] ∧ t.accepted = if success then [c] else [] := by
  obtain ⟨t₁, x, t₂, rfl, before, here, after⟩ := exists_of_filter_filterMap ht
  obtain ⟨posted₁, accepted₁⟩ := Trace.of_no_login before
  obtain ⟨posted₂, accepted₂⟩ := Trace.of_no_login after
  cases x with
  | handled _ _ => cases here
  | applied _ success =>
    cases here
    refine ⟨t₁, success, t₂, rfl, ?_⟩
    rw [← List.singleton_append, Trace.posted_append, Trace.posted_append, Trace.accepted_append, Trace.accepted_append,
      List.filter_append, List.filter_append, posted₁, posted₂, accepted₁, accepted₂]
    cases success <;> exact ⟨rfl, rfl⟩

/-- Nothing that comes of a login is on its way. -/
structure LoginFree (s : Station JournalEngine) : Prop where
  inbox : s.inbox.filter Input.isVerdict = []
  queue : s.engine.queue.filter EngineCall.isLogin = []

/-- What is kept as long as nobody asks for a login. -/
structure Unasked (s : Station JournalEngine) (t : Trace) (s' : Station JournalEngine) : Prop where
  free : LoginFree s'
  registration : s'.engine.recorder.journal.registration = s.engine.recorder.journal.registration
  loggedIn : s'.reporter.loggedIn = s.reporter.loggedIn
  silent : ∀ asker, (∀ i ∈ t.inputs, i.asker? ≠ some asker) → t.responses asker = []

/-- Only verdicts tell of logins. -/
lemma any_admits (is : List Input) : is.any Input.admits = (is.filter Input.isVerdict).any Input.admits := by
  rw [List.any_filter]
  congr
  funext i
  cases i <;> rfl

/-- Only verdicts tell an asker of logins. -/
lemma filterMap_loginVerdict? (is : List Input) :
    is.filterMap (Input.loginVerdict? asker) = (is.filter Input.isVerdict).filterMap (Input.loginVerdict? asker) := by
  rw [List.filterMap_filter]
  congr
  funext i
  cases i <;> rfl

/-- As long as nobody asks for a login, nothing about logins changes. -/
lemma Run.unasked (run : Run s t s') (alive : s.engine.alive = true) (free : LoginFree s)
    (ht : ∀ i ∈ t.inputs, i.isLogin = false) : Unasked s t s' := by
  -- No login is called, so none is applied; so no verdict is posted, and none is heard.
  have calls := congrArg (List.filter EngineCall.isLogin) (run.calls_eq alive)
  rw [List.filter_append, List.filter_append, free.queue, run.calls_no_login alive ht, eq_comm,
    List.append_nil, List.append_eq_nil_iff] at calls
  obtain ⟨posted, accepted⟩ := Trace.of_no_login calls.1
  have verdicts := run.verdicts_eq alive
  rw [free.inbox, posted, eq_comm, List.append_nil, List.append_eq_nil_iff] at verdicts
  refine ⟨⟨verdicts.2, calls.2⟩, ?_, ?_, fun asker ha => ?_⟩
  · rw [run.registration_eq alive, accepted]
    rfl
  · rw [run.loggedIn_eq alive, any_admits, verdicts.1, List.any_nil, Bool.or_false]
  · rw [run.responses_of_unasked alive ha, filterMap_loginVerdict?, verdicts.1]
    rfl

/-- What comes of a login that the engine has applied: its verdict is what can be made of the credentials and the disk at
that time, and the rest follows the verdict. -/
structure Ruled (s₀ : Station JournalEngine) (c : Credentials) (id : Option String) (asker : Asker) (t : Trace)
    (s : Station JournalEngine) (success : Bool) : Prop where
  applied : ∃ t₁ s₁ t₂, t = t₁ ++ .applied (.login c id asker) success :: t₂ ∧ Run s₀ t₁ s₁ ∧
    success = (Recorder.accepts c && s₁.engine.recorder.journal.registrationWritable)
  registration : s.engine.recorder.journal.registration =
    if success then some (Recorder.registrationOf c) else s₀.engine.recorder.journal.registration
  loggedIn : s.reporter.loggedIn = (s₀.reporter.loggedIn || success)

/-- The engine accepts a login if its credentials are acceptable and the disk takes the registration. -/
lemma login_success (r : Recorder) (c : Credentials) (id : Option String) (asker : Asker) :
    (JournalEngine.apply r (.login c id asker)).2 = (Recorder.accepts c && r.journal.registrationWritable) := by
  have up := JournalEngine.apply_upshot r (.login c id asker)
  generalize (JournalEngine.apply r (.login c id asker)).1 = r' at up
  generalize (JournalEngine.apply r (.login c id asker)).2 = success at up
  cases up with
  | rejected ha => simp [ha]
  | unsaved ha hd => exact ((Bool.and_eq_false_iff).2 (.inr hd)).symm
  | registered ha hd => exact (Bool.and_eq_true_iff.2 ⟨ha, hd⟩).symm

/-- A login that waits for the engine and is the only one has been ruled on when the asker is told something, and when
nothing is left to do. -/
lemma Run.ruled {c id} (run : Run s t s') (alive : s.engine.alive = true)
    (inbox : s.inbox.filter Input.isVerdict = []) (queue : s.engine.queue.filter EngineCall.isLogin = [.login c id asker])
    (ht : ∀ i ∈ t.inputs, i.isLogin = false ∧ i.asker? ≠ some asker) (told : s'.isQuiescent = true ∨ t.responses asker ≠ []) :
    ∃ success, t.responses asker = [.truth id success] ∧ Ruled s c id asker t s' success := by
  have calls := congrArg (List.filter EngineCall.isLogin) (run.calls_eq alive)
  rw [List.filter_append, List.filter_append, queue, run.calls_no_login alive fun i hi => (ht i hi).1,
    List.append_nil] at calls
  have verdicts := run.verdicts_eq alive
  rw [inbox, List.nil_append] at verdicts
  have responses := run.responses_of_unasked alive fun i hi => (ht i hi).2
  rcases List.singleton_eq_append_iff.1 calls with ⟨none_applied, waiting⟩ | ⟨applied, _⟩
  · -- Nothing would have been told then, and the login would be in the queue.
    have nothing := (Trace.of_no_login none_applied).1
    rw [nothing, eq_comm, List.append_eq_nil_iff] at verdicts
    rw [responses, filterMap_loginVerdict?, verdicts.1] at told
    rcases told with quiet | told
    · rw [(isQuiescent_iff.1 quiet).2] at waiting
      cases waiting
    · exact absurd rfl told
  · obtain ⟨t₁, success, t₂, rfl, posted, accepted⟩ := Trace.of_one_login applied
    rw [posted] at verdicts
    have heard : (Trace.inputs (t₁ ++ .applied (.login c id asker) success :: t₂)).filter Input.isVerdict =
        [.loginAcked success id asker] := by
      rcases List.singleton_eq_append_iff.1 verdicts with ⟨unheard, waiting⟩ | ⟨heard, _⟩
      · rw [responses, filterMap_loginVerdict?, unheard] at told
        rcases told with quiet | told
        · rw [(isQuiescent_iff.1 quiet).1] at waiting
          cases waiting
        · exact absurd rfl told
      · exact heard
    obtain ⟨s₁, s₂, run₁, st, _⟩ := run.split
    have verdict : success = (JournalEngine.apply s₁.engine.recorder (.login c id asker)).2 := by
      cases st
      rfl
    refine ⟨success, ?_, ⟨t₁, s₁, t₂, rfl, run₁, verdict.trans (login_success _ _ _ _)⟩, ?_, ?_⟩
    · rw [responses, filterMap_loginVerdict?, heard]
      simp [Input.loginVerdict?, Response.verdict]
    · rw [run.registration_eq alive, accepted]
      cases success <;> rfl
    · rw [run.loggedIn_eq alive, any_admits, heard]
      simp [Input.admits]

/-- When a login is asked for, the asker is told that the result is pending and the engine gets the call. -/
lemma Step.login_asked {c id done} (st : Step s [.handled (.control (.login c) id asker) done] s')
    (alive : s.engine.alive = true) (free : LoginFree s) :
    Trace.responses asker [.handled (.control (.login c) id asker) done] = [.later id] ∧
      s'.inbox.filter Input.isVerdict = [] ∧ s'.engine.queue.filter EngineCall.isLogin = [.login c id asker] ∧
      s'.engine.recorder = s.engine.recorder ∧ s'.reporter.loggedIn = s.reporter.loggedIn := by
  cases st with
  | @handle _ rest hi =>
    obtain ⟨answers, calls⟩ := Deed.of_login (d := s.deed (.control (.login c) id asker)) rfl
    have inbox := free.inbox
    rw [hi] at inbox
    rw [turn_deed alive hi, answers, calls, Deed.loggedIn_eq, List.filter_append, free.queue]
    exact ⟨by simp [Trace.responses, Trace.replies, Event.replies, Answer.for?], inbox, rfl, rfl, Bool.or_false _⟩

/-- What waits is handled or goes on waiting. -/
lemma Run.inbox_subset (run : Run s t s') (alive : s.engine.alive = true) {i : Input} (hi : i ∈ s.inbox) :
    i ∈ t.inputs ∨ i ∈ s'.inbox := by
  induction run with
  | refl => exact .inr hi
  | @step t s₁ e s₂ run st ih =>
    rw [Trace.inputs_append, List.mem_append]
    rcases ih with handled | waits
    · exact .inl (.inl handled)
    cases st with
    | post _ => exact .inr (List.mem_append_left _ waits)
    | @handle j rest hj =>
      rw [turn_deed (run.alive alive) hj]
      rw [hj] at waits
      rcases List.mem_cons.1 waits with rfl | waits
      · exact .inl (.inr (by simp [Trace.inputs, Event.input?]))
      · exact .inr waits
    | work hq =>
      rw [turn_work hq]
      exact .inr (List.mem_append_left _ waits)
    | disk => exact .inr waits

/-- A login that is the only one on its way, from the request on: when the asker has got a final answer, or when nothing
is left to do, the asker has been told that the result is pending and then the engine's verdict, and the verdict is true
of all that came of the login. -/
theorem Run.login_alone {c id} (alive : s.engine.alive = true) (free : LoginFree s)
    (run : Run (s.post (.control (.login c) id asker)) t s')
    (alone : (t.inputs.filter fun i => i.isLogin || i.asker? = some asker) <+ [.control (.login c) id asker])
    (answered : s'.isQuiescent = true ∨ ∃ r ∈ t.responses asker, r.pending = false) :
    ∃ success, t.responses asker = [.later id, .truth id success] ∧
      Ruled (s.post (.control (.login c) id asker)) c id asker t s' success := by
  have posted : LoginFree (s.post (.control (.login c) id asker)) := by
    refine ⟨?_, free.queue⟩
    rw [Station.post, List.filter_append, free.inbox]
    rfl
  have others {is : List Input} (h : is.filter (fun i => i.isLogin || i.asker? = some asker) = []) :
      ∀ i ∈ is, i.isLogin = false ∧ i.asker? ≠ some asker := by
    intro i hi
    simpa using List.filter_eq_nil_iff.1 h i hi
  -- While the request waits nothing changes, and when it is handled there is one login on its way.
  rcases List.sublist_singleton.1 alone with none_handled | handled
  · have unasked := run.unasked alive posted fun i hi => (others none_handled i hi).1
    rcases answered with quiet | ⟨r, hr, _⟩
    · have handled := run.inbox_subset alive (List.mem_append_right _ (.head _))
      rw [(isQuiescent_iff.1 quiet).1] at handled
      exact absurd (others none_handled _ (handled.resolve_right List.not_mem_nil)).1 Bool.noConfusion
    · rw [unasked.silent asker fun i hi => (others none_handled i hi).2] at hr
      cases hr
  · obtain ⟨t₁, x, t₂, rfl, before, here, after⟩ := exists_of_filter_filterMap handled
    cases x with
    | applied _ _ => cases here
    | handled i done =>
      cases here
      obtain ⟨s₁, s₂, run₁, st, run₂⟩ := run.split
      have alive₁ := run₁.alive alive
      have unasked := run₁.unasked alive posted fun i hi => (others before i hi).1
      obtain ⟨asked, inbox, queue, recorder, loggedIn⟩ := st.login_asked alive₁ unasked.free
      rw [← List.singleton_append, Trace.responses_append, Trace.responses_append, asked,
        unasked.silent asker fun i hi => (others before i hi).2, List.nil_append, List.singleton_append] at answered ⊢
      have told : s'.isQuiescent = true ∨ Trace.responses asker t₂ ≠ [] := by
        refine answered.imp_right ?_
        rintro ⟨r, hr, final⟩ nothing
        rw [nothing, List.mem_singleton] at hr
        rw [hr] at final
        cases final
      obtain ⟨success, last, ruled⟩ := run₂.ruled (st.alive alive₁) inbox queue (others after) told
      obtain ⟨u, s₃, v, rfl, run₃, verdict⟩ := ruled.applied
      refine ⟨success, by rw [last], ⟨_, s₃, v, ?_, (run₁.step st).trans run₃, verdict⟩, ?_, ?_⟩
      · simp
      · rw [ruled.registration, recorder, unasked.registration]
      · rw [ruled.loggedIn, loggedIn, unasked.loggedIn]

end

end Station

end FocusJournal
