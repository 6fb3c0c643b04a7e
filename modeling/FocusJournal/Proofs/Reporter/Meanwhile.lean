import FocusJournal.Proofs.Reporter.Switching

/-!
# Between a switch and its answer

A switch to a window has two halves, with the start of the engine in between. Meanwhile tabs are opened and left, people
log in, ask questions and ask to be tracked once more, and earlier starts are answered. None of this touches what the
second half depends on, the wish to be tracked and the generation (`handleAll_spares`), so the switch is settled on what
the tabs are then, and not on what they were when it began: `window_settles`.
-/

namespace FocusJournal

/-- Whether an event is about windows, or has the reporter look for one. -/
def FocusEvent.ofWindows : FocusEvent → Bool
  | .tabUpdated _ _ => false
  | .tabActivated _ _ => false
  | .windowFocusChanged _ => true
  | .pollTick => true

/-- Whether an input leaves a switch alone: it is no event about windows, no stop, and no refusal of a start that the
user asked for. -/
def Input.spares (i : Input) : Bool := i.event?.all (fun event => !event.ofWindows) && i.word?.all (· = .asked)

/-- An event about tabs begins no switch and no pause. -/
lemma Reporter.directive_of_tabs {r : Reporter} {event} (he : event.ofWindows = false) :
    (r.directive event).moves = false := by
  cases event with
  | tabUpdated tab url => cases ha : r.armed <;> simp [directive, Directive.ofEvent, Directive.moves, ha]
  | tabActivated tab window =>
    cases ha : r.armed with
    | false => rw [directive_unarmed ha]; rfl
    | true =>
      simp only [directive, Directive.ofEvent, ha, if_true]
      cases r.view.tabUrl? tab <;> rfl
  | windowFocusChanged => cases he
  | pollTick => cases he

/-- An input that leaves a switch alone keeps what it depends on. -/
lemma Reaction.spares {r r' : Reporter} {i calls} (re : Reaction r i r' calls) (sp : i.spares = true)
    (ha : r.armed = true) : r'.armed = true ∧ r'.focus.generation = r.focus.generation := by
  rw [Input.spares, Bool.and_eq_true, Option.all_eq_true, Option.all_eq_true] at sp
  constructor
  · rw [re.armed_eq]
    cases hw : i.word? with
    | none => exact ha
    | some w =>
      obtain rfl : w = .asked := by simpa using sp.2 w hw
      rfl
  · have still {event} (he : i.event? = some event) : ((r.look i).directive event).moves = false :=
      Reporter.directive_of_tabs (by simpa using sp.1 event he)
    cases re with
    | idle _ _ _ => simp
    | switch _ _ => simp
    | enter he hd => exact absurd (still he) (by rw [hd]; nofun)
    | leave he hd => exact absurd (still he) (by rw [hd]; nofun)
    | withdraw => exact absurd (sp.2 _ rfl) (by decide)
    | _ => rfl

namespace Reporter

variable {r : Reporter} {line : List (Bool × Input)}

/-- A line of inputs that spare the switch leaves the reporter armed, with the generation as it was. -/
lemma handleAll_spares (hs : ∀ x ∈ line, x.2.spares = true) (ha : r.armed = true) :
    (r.handleAll line).1.armed = true ∧ (r.handleAll line).1.focus.generation = r.focus.generation := by
  induction line generalizing r with
  | nil => exact ⟨ha, rfl⟩
  | cons x rest ih =>
    obtain ⟨recording, i⟩ := x
    obtain ⟨hx, hrest⟩ := List.forall_mem_cons.1 hs
    obtain ⟨ha', hg⟩ := (r.handle_reaction recording i).spares hx ha
    obtain ⟨ha'', hg'⟩ := ih hrest ha'
    exact ⟨ha'', hg'.trans hg⟩

/-- A window that comes into focus is switched to, by a start in a new generation. -/
lemma entered {recording i window} (ha : r.armed = true) (real : 0 ≤ window)
    (he : i.event? = some (.windowFocusChanged window)) :
    Deed.calls ⟨r, recording, i⟩ = [.start (.window window (Deed.after ⟨r, recording, i⟩).focus.generation)] ∧
      (Deed.after ⟨r, recording, i⟩).armed = true := by
  have hd : (r.look i).directive (.windowFocusChanged window) = .switchToWindow window := by
    have inside : ¬ window < 0 := Int64.not_lt.2 real
    simp [directive, Directive.ofEvent, ha, Directive.ofFocus, inside]
  have re := (⟨r, recording, i⟩ : Deed).reaction
  obtain ⟨after, calls⟩ := re.of_entering he hd
  constructor
  · rw [calls, after]
  · rw [after]
    simpa using ha

end Reporter

/-- How a switch to a window comes out, by the answer to its start and the active tabs that the window then has. -/
structure Settles (window : WindowId) (success : Bool) (d : Deed) : Prop where
  failed : success = false →
    d.calls = [] ∧ d.after.focus = d.before.focus ∧ d.after.enabled = false
  tracking : success = true → ∀ tab, d.before.view.activeTabs window = [tab] →
    d.calls = [.switchUrl tab.url] ∧ d.after.focus.state = .tracking window ∧ d.after.enabled = true
  paused : success = true → (d.before.view.activeTabs window).length ≠ 1 →
    d.calls = [.stop] ∧ d.after.focus.state = .paused ∧ d.after.enabled = false

/-- The answer to the start of the current switch settles its window. -/
lemma Reporter.settles {r : Reporter} {window generation} (ha : r.armed = true) (hg : r.focus.generation = generation)
    (recording success : Bool) :
    Settles window success ⟨r, recording, .startAcked success (.window window generation)⟩ := by
  have re := (⟨r, recording, .startAcked success (.window window generation)⟩ : Deed).reaction
  cases success with
  | false =>
    obtain ⟨after, calls⟩ := re.of_failed
    constructor
    case failed =>
      intro _
      rw [after]
      exact ⟨calls, rfl, rfl⟩
    all_goals intro h; cases h
  | true =>
    have hw : r.settling? true (.window window generation) = some window := by
      simp [settling?, ha, Focus.isCurrent, hg]
    constructor
    case failed => intro h; cases h
    case tracking =>
      intro _ tab ht
      rcases re.of_settling hw with ⟨tab', ht', after, calls⟩ | ⟨hn, _, _⟩
      · obtain rfl : tab' = tab := by simpa using ht'.symm.trans ht
        rw [after]
        exact ⟨calls, rfl, rfl⟩
      · exact absurd (by rw [ht]; rfl) hn
    case paused =>
      intro _ hn
      rcases re.of_settling hw with ⟨tab, ht, _, _⟩ | ⟨_, after, calls⟩
      · exact absurd (by rw [ht]; rfl) hn
      · rw [after]
        exact ⟨calls, rfl, rfl⟩

/-- When a window comes into focus, the engine is asked to start. Whatever the reporter handles meanwhile that leaves
the switch alone, the answer settles the window on the tabs that are active in it by then. -/
theorem window_settles {r : Reporter} {recording : Bool} {i : Input} {window : WindowId} (armed : r.armed = true)
    (real : 0 ≤ window) (event : i.event? = some (.windowFocusChanged window)) :
    let d : Deed := ⟨r, recording, i⟩
    ∃ generation, d.calls = [.start (.window window generation)] ∧
      ∀ meanwhile : List (Bool × Input), (∀ x ∈ meanwhile, x.2.spares = true) → ∀ recording' success,
        Settles window success
          ⟨(d.after.handleAll meanwhile).1, recording', .startAcked success (.window window generation)⟩ := by
  intro d
  have ⟨calls, armed'⟩ : d.calls = [.start (.window window d.after.focus.generation)] ∧ d.after.armed = true :=
    Reporter.entered armed real event
  refine ⟨_, calls, ?_⟩
  intro meanwhile spared recording' success
  obtain ⟨armed'', current⟩ := Reporter.handleAll_spares spared armed'
  exact Reporter.settles armed'' current recording' success

/-- A window with one active tab, for a user who wants to be tracked and has not been answered. -/
def beforeFocus : Reporter := ((Reporter.initial ⟨"linux"⟩ true).handleAll [
  (false, .control .startTracking none 0),
  (false, .notification (.snapshot [⟨1, true, [⟨7, "https://a.example", true⟩]⟩]))]).1

/-- Another tab becomes active, and the start that the user asked for is answered. -/
def otherTab : List (Bool × Input) := [
  (false, .notification (.tabUpdated 8 (some 1) "https://b.example")),
  (true, .startAcked true .user),
  (true, .notification (.tabActivated 8 1)),
  (true, .control .startTracking none 1)]

/-- A window is settled on the tab that became active after the focus came to it. -/
theorem window_settles_otherTab :
    let d : Deed := ⟨beforeFocus, false, .focus (.windowFocusChanged 1)⟩
    let d' : Deed := ⟨(d.after.handleAll otherTab).1, true, .startAcked true (.window 1 1)⟩
    d.before.view.activeTabs 1 = [⟨7, 1, "https://a.example"⟩] ∧ d.calls = [.start (.window 1 1)] ∧
      d'.calls = [.switchUrl "https://b.example"] ∧ d'.after.focus.state = .tracking 1 ∧ d'.after.enabled = true := by
  intro d d'
  have event : d.input.event? = some (.windowFocusChanged 1) := rfl
  obtain ⟨generation, calls, settles⟩ := window_settles (r := beforeFocus) (by decide) (by decide) event
  obtain rfl : generation = 1 := by
    have first : d.calls = [.start (.window 1 1)] := by decide
    simpa using calls.symm.trans first
  have spared : ∀ x ∈ otherTab, x.2.spares = true := by decide
  have so : Settles 1 true d' := settles otherTab spared true true
  exact ⟨by decide, calls, so.tracking rfl ⟨8, 1, "https://b.example"⟩ (by decide)⟩

end FocusJournal
