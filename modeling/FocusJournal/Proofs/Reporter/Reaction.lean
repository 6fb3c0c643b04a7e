import FocusJournal.Journal.Basic
import FocusJournal.Reporter.Basic
import Mathlib.Tactic.Lemma

/-!
# Reactions

What handling an input can come to: the relation `Reaction` lists the cases, each with the state that the reporter ends
in and the calls that it makes, and `Reporter.handle_reaction` shows that there are no others. What the cases have in
common is read off it: `Reaction.armed_eq` and `Reaction.enabled_eq` for the two flags, `Reaction.of_word` and
`Reaction.of_event` for the calls, and `Reaction.unasked` for a reporter whose user does not want to be tracked, which
`Reporter.handleAll_unasked` carries over to any number of inputs.
-/

namespace FocusJournal

/-- The call that an effect is. -/
def Effect.call? : Effect → Option EngineCall
  | .call c => some c
  | .answer _ _ => none

/-- The start or the stop that a call asks for. -/
def EngineCall.mark? : EngineCall → Option EventKind
  | .start _ => some .start
  | .stop => some .stop
  | .switchUrl _ => none
  | .login _ _ _ => none

/-- The generation of the switch that a start belongs to. -/
def StartOrigin.generation? : StartOrigin → Option Nat
  | .user => none
  | .window _ generation => some generation

/-- The start that a call asks for. -/
def EngineCall.begun? : EngineCall → Option StartOrigin
  | .start origin => some origin
  | _ => none

/-- What bears on the user's wish to be tracked. -/
inductive Word where
  | asked
  | withdrawn
  /-- The engine refused the start that the user asked for. -/
  | refused
  deriving DecidableEq

/-- The calls that carry out a directive, where a switch to a window would have the given generation. -/
def Directive.calls (generation : Nat) : Directive → List EngineCall
  | .ignore => []
  | .switchUrl url => [.switchUrl url]
  | .switchToWindow window => [.start (.window window generation)]
  | .pause => [.stop]

/-- Whether the user counts as wanting to be tracked after a word. -/
def Word.arms : Word → Bool
  | .asked => true
  | .withdrawn => false
  | .refused => false

/-- Nobody wants to be tracked by default, and only a request changes that. -/
lemma Word.arms_iff {word? : Option Word} : (word?.map arms).getD false = true ↔ word? = some .asked := by
  cases word? with
  | none => simp
  | some w => cases w <;> simp [arms]

/-- The calls that a word asks for. -/
def Word.calls : Word → List EngineCall
  | .asked => [.start .user]
  | .withdrawn => [.stop]
  | .refused => []

namespace Input

/-- The word in an input. -/
def word? : Input → Option Word
  | .control .startTracking _ _ => some .asked
  | .control .stopTracking _ _ => some .withdrawn
  | .startAcked false .user => some .refused
  | _ => none

/-- The engine's verdict on a start in an input. -/
def verdict? : Input → Option Bool
  | .startAcked success _ => some success
  | _ => none

/-- The start that an input answers. -/
def told? : Input → Option StartOrigin
  | .startAcked _ origin => some origin
  | _ => none

/-- The focus event in an input. -/
def event? : Input → Option FocusEvent
  | .notification n => FocusEvent.ofNotification? n
  | .focus event => some event
  | _ => none

end Input

/-- The reporter once it has seen what an input says of the browser. -/
def Reporter.look (r : Reporter) : Input → Reporter
  | .notification n => { r with view := r.view.observe n }
  | _ => r

/-- What handling an input can come to. -/
inductive Reaction (r : Reporter) : Input → Reporter → List EngineCall → Prop where
  | idle {i} :
    i.word? = none →
    i.verdict? = none →
    (∀ event, i.event? = some event → (r.look i).directive event = .ignore) →
    Reaction r i (r.look i) []
  | loggedIn {success id asker} :
    Reaction r (.loginAcked success id asker) { r with loggedIn := r.loggedIn || success } []
  | login {c id asker} :
    Reaction r (.control (.login c) id asker) r [.login c id asker]
  | switch {i event url} :
    i.event? = some event →
    (r.look i).directive event = .switchUrl url →
    Reaction r i (r.look i) [.switchUrl url]
  | enter {i event window} :
    i.event? = some event →
    (r.look i).directive event = .switchToWindow window →
    Reaction r i { r.look i with focus := r.focus.beginSwitch } [.start (.window window r.focus.beginSwitch.generation)]
  | leave {i event} :
    i.event? = some event →
    (r.look i).directive event = .pause →
    Reaction r i { r.look i with focus := r.focus.pause, enabled := false } [.stop]
  | ask {id asker} :
    Reaction r (.control .startTracking id asker) { r with armed := true } [.start .user]
  | withdraw {id asker} :
    Reaction r (.control .stopTracking id asker) { r with armed := false, focus := r.focus.pause, enabled := false }
      [.stop]
  | refused :
    Reaction r (.startAcked false .user) { r with enabled := false, armed := false } []
  | failed {window generation} :
    Reaction r (.startAcked false (.window window generation)) { r with enabled := false } []
  | granted {origin} :
    r.settling? true origin = none →
    Reaction r (.startAcked true origin) { r with enabled := true } []
  | settled {origin window tab} :
    r.settling? true origin = some window →
    r.view.activeTabs window = [tab] →
    Reaction r (.startAcked true origin) { r with enabled := true, focus := ⟨.tracking window, r.focus.generation⟩ }
      [.switchUrl tab.url]
  | anomalous {origin window} :
    r.settling? true origin = some window →
    (r.view.activeTabs window).length ≠ 1 →
    Reaction r (.startAcked true origin) { r with enabled := false, focus := ⟨.paused, r.focus.generation⟩ } [.stop]

namespace Reporter

/-- A focus event is handled as the directive for it says. -/
lemma onFocus_reaction {r : Reporter} {i event} (he : i.event? = some event) (hw : i.word? = none)
    (hv : i.verdict? = none) :
    Reaction r i ((r.look i).onFocus event).1 (((r.look i).onFocus event).2.filterMap Effect.call?) := by
  have hf : (r.look i).focus = r.focus := by cases i <;> rfl
  unfold onFocus
  split
  · next hd =>
    refine .idle hw hv ?_
    rintro _ he'
    rw [he] at he'
    cases he'
    exact hd
  · next url hd => exact .switch he hd
  · next window hd => rw [hf]; exact .enter he hd
  · next hd => rw [hf]; exact .leave he hd

/-- An acknowledgment is settled, noted or the end of the wish to be tracked. -/
lemma onStartAcked_reaction (r : Reporter) (success : Bool) (origin : StartOrigin) :
    Reaction r (.startAcked success origin) (r.onStartAcked success origin).1
      ((r.onStartAcked success origin).2.filterMap Effect.call?) := by
  cases success with
  | false => cases origin with
    | user => exact .refused
    | window _ _ => exact .failed
  | true =>
    have hs : ({ r with enabled := true } : Reporter).settling? true origin = r.settling? true origin := by
      cases origin <;> rfl
    simp only [onStartAcked, hs]
    split
    · next window hw =>
      match ht : r.view.activeTabs window with
      | [] =>
        simpa [settle, ht, Focus.outcome, Focus.settle, Effect.call?] using
          Reaction.anomalous hw (by simp [ht])
      | [tab] =>
        simpa [settle, ht, Focus.outcome, Focus.settle, Effect.call?] using Reaction.settled hw ht
      | _ :: _ :: _ =>
        simpa [settle, ht, Focus.outcome, Focus.settle, Effect.call?] using
          Reaction.anomalous hw (by simp [ht])
    · next hw => exact .granted hw

/-- Every input is handled in one of the ways that `Reaction` lists. -/
theorem handle_reaction (r : Reporter) (recording : Bool) (i : Input) :
    Reaction r i (r.handle recording i).1 ((r.handle recording i).2.filterMap Effect.call?) := by
  cases i with
  | notification n =>
    cases n with
    | snapshot windows => exact .idle rfl rfl nofun
    | tabUpdated tab window url => exact onFocus_reaction rfl rfl rfl
    | tabActivated tab window => exact onFocus_reaction rfl rfl rfl
    | windowFocusChanged window => exact onFocus_reaction rfl rfl rfl
  | focus event => exact onFocus_reaction rfl rfl rfl
  | control control id asker =>
    cases control with
    | startTracking => exact .ask
    | stopTracking => exact .withdraw
    | getTracking => exact .idle rfl rfl nofun
    | checkLogin => exact .idle rfl rfl nofun
    | isTracking => exact .idle rfl rfl nofun
    | login c => exact .login
  | startAcked success origin => exact onStartAcked_reaction r success origin
  | loginAcked success id asker => exact .loggedIn

end Reporter

/-- An input with a focus event has no word in it. -/
lemma Input.word?_of_event {i : Input} {event} (he : i.event? = some event) : i.word? = none := by
  cases i with
  | notification => rfl
  | focus => rfl
  | _ => cases he

/-- A start is begun by the call for it, and by no other. -/
lemma EngineCall.begun?_eq_some {c : EngineCall} {origin} : c.begun? = some origin ↔ c = .start origin := by
  cases c <;> simp [begun?]

/-- There is one refusal that counts. -/
lemma Input.eq_of_refused {i : Input} (hw : i.word? = some .refused) : i = .startAcked false .user := by
  cases i with
  | control c => cases c <;> cases hw
  | startAcked success origin => cases success <;> cases origin <;> first | rfl | cases hw
  | _ => cases hw

/-- An input with a focus event has no verdict in it. -/
lemma Input.verdict?_of_event {i : Input} {event} (he : i.event? = some event) : i.verdict? = none := by
  cases i with
  | notification => rfl
  | focus => rfl
  | _ => cases he

/-- An input with a focus event answers no start. -/
lemma Input.told?_of_event {i : Input} {event} (he : i.event? = some event) : i.told? = none := by
  cases i with
  | notification => rfl
  | focus => rfl
  | _ => cases he

/-- Only what the reporter knows of the browser changes when it looks. -/
@[simp] lemma Reporter.look_armed (r : Reporter) (i : Input) : (r.look i).armed = r.armed := by cases i <;> rfl

/-- The flag stays as it is. -/
@[simp] lemma Reporter.look_enabled (r : Reporter) (i : Input) : (r.look i).enabled = r.enabled := by cases i <;> rfl

/-- So does the platform. -/
@[simp] lemma Reporter.look_platform (r : Reporter) (i : Input) : (r.look i).platform = r.platform := by cases i <;> rfl

/-- The focus moves with what the reporter does, not with what it sees. -/
@[simp] lemma Reporter.look_focus (r : Reporter) (i : Input) : (r.look i).focus = r.focus := by cases i <;> rfl

/-- No event leads to anything unless the user wants to be tracked. -/
lemma Reporter.directive_unarmed {r : Reporter} {event} (ha : r.armed = false) : r.directive event = .ignore := by
  simp [directive, Directive.ofEvent, ha]

/-- A change of focus is a pause or a switch to a window. -/
lemma Directive.ofFocus_cases (window? : Option WindowId) :
    ofFocus window? = .pause ∨ ∃ window, ofFocus window? = .switchToWindow window := by
  cases window? with
  | none => exact .inl rfl
  | some window => by_cases h : window < 0 <;> simp [ofFocus, h]

/-- A window is settled only while the user wants to be tracked, by the start of the current switch. -/
lemma Reporter.settling?_eq_some {r : Reporter} {success origin window}
    (hw : r.settling? success origin = some window) : r.armed = true ∧ origin = .window window r.focus.generation := by
  cases origin with
  | user => cases hw
  | window v generation =>
    simp only [settling?, Focus.isCurrent, Bool.and_eq_true, decide_eq_true_eq] at hw
    split at hw
    · next h =>
      cases hw
      exact ⟨h.1.2, by rw [h.2]⟩
    · cases hw

/-- What a reporter does that settles a window: it follows the one active tab of the window, or it gives up where there
is not exactly one. -/
def Reporter.Completes (r : Reporter) (window : WindowId) (r' : Reporter) (calls : List EngineCall) : Prop :=
  (∃ tab, r.view.activeTabs window = [tab] ∧
      r' = { r with enabled := true, focus := ⟨.tracking window, r.focus.generation⟩ } ∧
      calls = [.switchUrl tab.url]) ∨
    (r.view.activeTabs window).length ≠ 1 ∧
      r' = { r with enabled := false, focus := ⟨.paused, r.focus.generation⟩ } ∧ calls = [.stop]

/-- No window is settled without a call. -/
lemma Reporter.Completes.calls_ne {r : Reporter} {window r' calls} (done : r.Completes window r' calls) :
    calls ≠ [] := by
  rcases done with ⟨tab, _, _, rfl⟩ | ⟨_, _, rfl⟩ <;> exact List.cons_ne_nil _ _

namespace Reaction

variable {r r' : Reporter} {i : Input} {calls : List EngineCall}

/-- The wish to be tracked follows the words. -/
lemma armed_eq (re : Reaction r i r' calls) : r'.armed = (i.word?.map Word.arms).getD r.armed := by
  cases re with
  | idle hw _ _ => simp [hw]
  | switch he _ => simp [Input.word?_of_event he]
  | enter he _ => simp [Input.word?_of_event he]
  | leave he _ => simp [Input.word?_of_event he]
  | _ => rfl

/-- The flag follows the verdicts, and a stop clears it. -/
lemma enabled_eq (re : Reaction r i r' calls) :
    r'.enabled = if .stop ∈ calls then false else i.verdict?.getD r.enabled := by
  cases re with
  | idle _ hv _ => simp [hv]
  | switch he _ => simp [Input.verdict?_of_event he]
  | enter he _ => simp [Input.verdict?_of_event he]
  | leave _ _ => simp
  | withdraw => simp
  | anomalous _ _ => simp
  | _ => rfl

/-- The platform stays what it is. -/
lemma platform_eq (re : Reaction r i r' calls) : r'.platform = r.platform := by
  cases re with
  | idle _ _ _ => simp
  | switch _ _ => simp
  | enter _ _ => simp
  | leave _ _ => simp
  | _ => rfl

/-- The view changes by looking and by nothing else. -/
lemma view_eq (re : Reaction r i r' calls) : r'.view = (r.look i).view := by
  cases re <;> rfl

/-- An input with a word in it has the calls that the word asks for. -/
lemma of_word (re : Reaction r i r' calls) {w} (hw : i.word? = some w) : calls = w.calls := by
  cases re with
  | idle h _ _ => rw [h] at hw; cases hw
  | switch he _ => rw [Input.word?_of_event he] at hw; cases hw
  | enter he _ => rw [Input.word?_of_event he] at hw; cases hw
  | leave he _ => rw [Input.word?_of_event he] at hw; cases hw
  | ask => cases hw; rfl
  | withdraw => cases hw; rfl
  | refused => cases hw; rfl
  | _ => cases hw

/-- An input with a focus event has the calls that the directive for it says. -/
lemma of_event (re : Reaction r i r' calls) {event} (he : i.event? = some event) :
    calls = ((r.look i).directive event).calls r.focus.beginSwitch.generation := by
  cases re with
  | idle _ _ hi => rw [hi event he]; rfl
  | switch he' hd =>
    cases he.symm.trans he'
    rw [hd]
    rfl
  | enter he' hd =>
    cases he.symm.trans he'
    rw [hd]
    rfl
  | leave he' hd =>
    cases he.symm.trans he'
    rw [hd]
    rfl
  | _ => cases he

/-- A start is asked for by the user or to begin a switch, which is then the current one. -/
lemma of_start (re : Reaction r i r' calls) {origin} (hc : .start origin ∈ calls) :
    origin = .user ∧ i.word? = some .asked ∨
      ∃ event window, i.event? = some event ∧ (r.look i).directive event = .switchToWindow window ∧
        origin = .window window r'.focus.generation := by
  cases re with
  | ask => exact .inl ⟨by simpa using hc, rfl⟩
  | @enter _ event window he hd => exact .inr ⟨event, window, he, hd, by simpa using hc⟩
  | _ => simp at hc

/-- A stop is asked for by an event that leads away from all windows or by the user, or it answers a start. -/
lemma of_stop (re : Reaction r i r' calls) (hc : .stop ∈ calls) :
    (∃ event, i.event? = some event ∧ (r.look i).directive event = .pause) ∨ i.word? = some .withdrawn ∨
      i.told? ≠ none := by
  cases re with
  | leave he hd => exact .inl ⟨_, he, hd⟩
  | withdraw => exact .inr (.inl rfl)
  | anomalous _ _ => exact .inr (.inr (Option.some_ne_none _))
  | _ => simp at hc

/-- An event that leads to a window has the engine started for it. -/
lemma of_entering (re : Reaction r i r' calls) {event window} (he : i.event? = some event)
    (hd : (r.look i).directive event = .switchToWindow window) :
    r' = { r.look i with focus := r.focus.beginSwitch } ∧
      calls = [.start (.window window r.focus.beginSwitch.generation)] := by
  cases re with
  | idle _ _ hi => cases hd.symm.trans (hi event he)
  | switch he' hd' => cases he.symm.trans he'; cases hd.symm.trans hd'
  | enter he' hd' => cases he.symm.trans he'; cases hd.symm.trans hd'; exact ⟨rfl, rfl⟩
  | leave he' hd' => cases he.symm.trans he'; cases hd.symm.trans hd'
  | _ => cases he

/-- An event that leads away from all windows has the engine stopped. -/
lemma of_leaving (re : Reaction r i r' calls) {event} (he : i.event? = some event)
    (hd : (r.look i).directive event = .pause) :
    r' = { r.look i with focus := r.focus.pause, enabled := false } ∧ calls = [.stop] := by
  cases re with
  | idle _ _ hi => cases hd.symm.trans (hi event he)
  | switch he' hd' => cases he.symm.trans he'; cases hd.symm.trans hd'
  | enter he' hd' => cases he.symm.trans he'; cases hd.symm.trans hd'
  | leave he' hd' => cases he.symm.trans he'; cases hd.symm.trans hd'; exact ⟨rfl, rfl⟩
  | _ => cases he

/-- A start that failed for a window is noted, and that is all. -/
lemma of_failed {window generation} (re : Reaction r (.startAcked false (.window window generation)) r' calls) :
    r' = { r with enabled := false } ∧ calls = [] := by
  cases re with
  | idle _ hv _ => cases hv
  | switch he _ => cases he
  | enter he _ => cases he
  | leave he _ => cases he
  | failed => exact ⟨rfl, rfl⟩

/-- So is a start that is granted and settles no window. -/
lemma of_granted {origin} (re : Reaction r (.startAcked true origin) r' calls) (hn : r.settling? true origin = none) :
    r' = { r with enabled := true } ∧ calls = [] := by
  cases re with
  | idle _ hv _ => cases hv
  | switch he _ => cases he
  | enter he _ => cases he
  | leave he _ => cases he
  | granted _ => exact ⟨rfl, rfl⟩
  | settled hw _ => rw [hn] at hw; cases hw
  | anomalous hw _ => rw [hn] at hw; cases hw

/-- The acknowledgment of a start settles a window, or it leads to no call and leaves the focus alone. -/
lemma of_started {success origin} (re : Reaction r (.startAcked success origin) r' calls) :
    (∃ window, r.settling? success origin = some window ∧ r.Completes window r' calls) ∨
      r.settling? success origin = none ∧ r'.focus = r.focus ∧ calls = [] := by
  cases re with
  | idle _ hv _ => cases hv
  | switch he _ => cases he
  | enter he _ => cases he
  | leave he _ => cases he
  | refused => exact .inr ⟨rfl, rfl, rfl⟩
  | failed => exact .inr ⟨rfl, rfl, rfl⟩
  | granted hn => exact .inr ⟨hn, rfl, rfl⟩
  | @settled _ window tab hw ht => exact .inl ⟨window, hw, .inl ⟨tab, ht, rfl, rfl⟩⟩
  | @anomalous _ window hw hn => exact .inl ⟨window, hw, .inr ⟨hn, rfl, rfl⟩⟩

/-- The acknowledgment that settles a window has the engine switch to the URL of its active tab, or stop where there is
not exactly one. -/
lemma of_settling {success origin window} (re : Reaction r (.startAcked success origin) r' calls)
    (hw : r.settling? success origin = some window) : r.Completes window r' calls := by
  rcases re.of_started with ⟨window', hw', done⟩ | ⟨hn, _⟩
  · cases hw.symm.trans hw'
    exact done
  · rw [hn] at hw
    cases hw

/-- An input leads to one call at most. -/
lemma single (re : Reaction r i r' calls) {c} (hc : c ∈ calls) : calls = [c] := by
  cases re <;> simp_all

/-- A reporter whose user does not want to be tracked asks nothing of the engine but logins, and stays so until the user
says otherwise. -/
lemma unasked (re : Reaction r i r' calls) (ha : r.armed = false) (hi : i.word? ≠ some .asked)
    (hi' : i.word? ≠ some .withdrawn) :
    r'.armed = false ∧ r'.focus = r.focus ∧ ∀ c ∈ calls, ∃ credentials id asker, c = .login credentials id asker := by
  have ignored {event} : (r.look i).directive event = .ignore := Reporter.directive_unarmed (by simpa using ha)
  cases re with
  | idle _ _ _ => exact ⟨by simpa using ha, by simp, nofun⟩
  | loggedIn => exact ⟨ha, rfl, nofun⟩
  | login => exact ⟨ha, rfl, by simp⟩
  | switch _ hd => rw [ignored] at hd; cases hd
  | enter _ hd => rw [ignored] at hd; cases hd
  | leave _ hd => rw [ignored] at hd; cases hd
  | ask => exact absurd rfl hi
  | withdraw => exact absurd rfl hi'
  | refused => exact ⟨rfl, rfl, nofun⟩
  | failed => exact ⟨ha, rfl, nofun⟩
  | granted _ => exact ⟨ha, rfl, nofun⟩
  | settled hw _ => rw [(Reporter.settling?_eq_some hw).1] at ha; cases ha
  | anomalous hw _ => rw [(Reporter.settling?_eq_some hw).1] at ha; cases ha

end Reaction

namespace Reporter

/-- Handles inputs one after the other, each with what the engine then says of itself. -/
def handleAll (r : Reporter) : List (Bool × Input) → Reporter × List Effect
  | [] => (r, [])
  | (recording, i) :: rest =>
    let (r, effects) := r.handle recording i
    let (r, more) := r.handleAll rest
    (r, effects ++ more)

/-- `Reaction.unasked` for any number of inputs. -/
lemma handleAll_unasked {r : Reporter} {line : List (Bool × Input)} (ha : r.armed = false)
    (hi : ∀ x ∈ line, x.2.word? ≠ some .asked ∧ x.2.word? ≠ some .withdrawn) :
    (r.handleAll line).1.armed = false ∧ (r.handleAll line).1.focus = r.focus ∧
      ∀ c ∈ (r.handleAll line).2.filterMap Effect.call?, ∃ credentials id asker, c = .login credentials id asker := by
  induction line generalizing r with
  | nil => exact ⟨ha, rfl, nofun⟩
  | cons x rest ih =>
    obtain ⟨recording, i⟩ := x
    obtain ⟨hx, hrest⟩ := List.forall_mem_cons.1 hi
    obtain ⟨ha', hf, hc⟩ := (handle_reaction r recording i).unasked ha hx.1 hx.2
    obtain ⟨ha'', hf', hc'⟩ := ih ha' hrest
    refine ⟨ha'', hf'.trans hf, ?_⟩
    intro c hm
    simp only [handleAll, List.filterMap_append] at hm
    rcases List.mem_append.1 hm with hm | hm
    · exact hc c hm
    · exact hc' c hm

end Reporter

end FocusJournal
