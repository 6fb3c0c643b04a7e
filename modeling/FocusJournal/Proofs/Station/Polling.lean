import FocusJournal.Proofs.Station.Ledger
import FocusJournal.Proofs.Station.Settlement
import Mathlib.Logic.Function.Iterate

/-!
# Polling an unchanged browser

A tick looks where the focus is and acts as if it had just moved there: without a window the engine is stopped, for a
window it is started, and once it has started the window is settled. `Ready.poll_eq` says what a tick comes to when
everything that it leads to is done, by what it finds (`Sight`). The next tick finds the same, and `polling_steady` says
what any number of them changes after the first: nothing, with one exception. The engine is started before the tabs of
the window are looked at, so if there is not exactly one active tab, each tick opens a span and closes it again.
-/

namespace FocusJournal

/-- A tick counts as the focus on the window that has it. -/
lemma Reporter.directive_pollTick {r : Reporter} (ha : r.armed = true)
    (hp : r.platform.reliability.needsPolling = true) :
    r.directive .pollTick = .ofFocus r.view.focusedWindow? := by
  simp [directive, Directive.ofEvent, ha, hp]

/-- A tick has the engine stopped, or started for a window. -/
lemma Reaction.of_tick {r r' : Reporter} {calls} (re : Reaction r (.focus .pollTick) r' calls) (ha : r.armed = true)
    (hp : r.platform.reliability.needsPolling = true) :
    (Directive.ofFocus r.view.focusedWindow? = .pause ∧
        r' = { r with focus := r.focus.pause, enabled := false } ∧ calls = [.stop]) ∨
      ∃ window, Directive.ofFocus r.view.focusedWindow? = .switchToWindow window ∧
        r' = { r with focus := r.focus.beginSwitch } ∧ calls = [.start (.window window r.focus.beginSwitch.generation)] := by
  have hd := Reporter.directive_pollTick ha hp
  rw [← hd]
  rcases Directive.ofFocus_cases r.view.focusedWindow? with h | ⟨window, h⟩
  · exact .inl ⟨hd.trans h, re.of_leaving rfl (hd.trans h)⟩
  · exact .inr ⟨window, hd.trans h, re.of_entering rfl (hd.trans h)⟩

namespace Station

/-- The station after a tick and everything that it leads to. -/
def poll (s : Station JournalEngine) : Station JournalEngine := (s.turn (.post (.focus .pollTick))).1.settle.1

/-- What a tick can find. -/
inductive Sight where
  /-- The focus is on no window. -/
  | unfocused
  /-- The focus is on a window, but no device is registered. -/
  | unregistered
  | page (window : WindowId) (url : String)
  /-- The focus is on a window that has no active tab, or several. -/
  | unclear
  deriving DecidableEq

/-- What a tick finds. -/
def sight (s : Station JournalEngine) : Sight :=
  match Directive.ofFocus s.reporter.view.focusedWindow? with
  | .switchToWindow window =>
    if s.engine.recorder.registered then
      match s.reporter.view.activeTabs window with
      | [tab] => .page window tab.url
      | _ => .unclear
    else .unregistered
  | _ => .unfocused

/-- What a tick comes to that finds the given. -/
def seen (s : Station JournalEngine) : Sight → Station JournalEngine
  | .unfocused =>
    ⟨{ s.reporter with focus := s.reporter.focus.pause, enabled := false }, ⟨s.engine.recorder.stop, [], true⟩, []⟩
  | .unregistered =>
    ⟨{ s.reporter with focus := s.reporter.focus.beginSwitch, enabled := false }, ⟨s.engine.recorder, [], true⟩, []⟩
  | .page window url =>
    ⟨{ s.reporter with focus := ⟨.tracking window, s.reporter.focus.generation + 1⟩, enabled := true },
      ⟨s.engine.recorder.start.1.switch url, [], true⟩, []⟩
  | .unclear =>
    ⟨{ s.reporter with focus := ⟨.paused, s.reporter.focus.generation + 1⟩, enabled := false },
      ⟨s.engine.recorder.start.1.stop, [], true⟩, []⟩

/-- A station at rest whose reporter polls the focus for a user who wants to be tracked, on a disk that takes rows. -/
structure Ready (s : Station JournalEngine) : Prop where
  quiescent : s.isQuiescent = true
  alive : s.engine.alive = true
  armed : s.reporter.armed = true
  polls : s.reporter.platform.reliability.needsPolling = true
  coherent : Coherent s.engine.recorder
  writable : s.engine.recorder.disk.events = true

section

variable (r : Reporter) (recorder : Recorder) (n : Nat)

/-- A station at rest stays as it is. -/
lemma settleWithin_rest : (settleWithin n ⟨r, ⟨recorder, [], true⟩, []⟩).1 = ⟨r, ⟨recorder, [], true⟩, []⟩ := by
  cases n <;> rfl

/-- The only input is handled first, by one of the reactions to it. -/
lemma settleWithin_input (i : Input) :
    ∃ r' calls, Reaction r i r' calls ∧
      (settleWithin (n + 1) ⟨r, ⟨recorder, [], true⟩, [i]⟩).1 = (settleWithin n ⟨r', ⟨recorder, calls, true⟩, []⟩).1 := by
  obtain ⟨r', calls, answers, re, eq⟩ := turn_handle (s := ⟨r, ⟨recorder, [], true⟩, [i]⟩) rfl rfl
  refine ⟨r', calls, re, ?_⟩
  rw [settleWithin, eq]
  rfl

/-- The only call is applied first, and its acknowledgment is the next input. -/
lemma settleWithin_call (c : EngineCall) :
    (settleWithin (n + 1) ⟨r, ⟨recorder, [c], true⟩, []⟩).1 =
      (settleWithin n ⟨r, ⟨(JournalEngine.apply recorder c).1, [], true⟩,
        c.acknowledgment (JournalEngine.apply recorder c).2⟩).1 := rfl

end

/-- In the focus of a registered user, what counts is whether there is exactly one active tab. -/
lemma sight_of_window {s : Station JournalEngine} {window}
    (hf : Directive.ofFocus s.reporter.view.focusedWindow? = .switchToWindow window)
    (hr : s.engine.recorder.registered = true) :
    (∀ tab, s.reporter.view.activeTabs window = [tab] → s.sight = .page window tab.url) ∧
      ((s.reporter.view.activeTabs window).length ≠ 1 → s.sight = .unclear) := by
  rw [sight, hf]
  simp only [hr, ite_true]
  refine ⟨fun tab ht => by rw [ht], fun hn => ?_⟩
  split
  · next ht => rw [ht] at hn; exact absurd rfl hn
  · rfl

/-- A page is only seen, or found to be unclear, where a device is registered. -/
lemma registered_of_sight {s : Station JournalEngine} (hu : s.sight ≠ .unfocused) (hn : s.sight ≠ .unregistered) :
    s.engine.recorder.registered = true := by
  by_contra hr
  rcases Directive.ofFocus_cases s.reporter.view.focusedWindow? with hf | ⟨window, hf⟩
  · exact hu (by rw [sight, hf])
  · exact hn (by rw [sight, hf]; exact if_neg hr)

namespace Ready

variable {s : Station JournalEngine}

/-- What a tick comes to is told by what it finds. -/
theorem poll_eq (re : Ready s) : s.poll = s.seen s.sight := by
  obtain ⟨hs, alive, ha, hp, co, hd⟩ := re
  obtain ⟨hi, hq⟩ := isQuiescent_iff.1 hs
  obtain ⟨reporter, ⟨recorder, queue, alive'⟩, inbox⟩ := s
  cases hi
  cases hq
  cases alive
  have hg : recorder.start.2 = recorder.registered := co.start_granted hd
  obtain ⟨r, calls, tick, eq⟩ := settleWithin_input reporter recorder 3 (.focus .pollTick)
  have eq' : poll ⟨reporter, ⟨recorder, [], true⟩, []⟩ = (settleWithin 3 ⟨r, ⟨recorder, calls, true⟩, []⟩).1 := eq
  rw [eq']
  -- The tick leads to a stop, or to a start whose answer is the next input and may lead to one call more.
  rcases tick.of_tick ha hp with ⟨hf, rfl, rfl⟩ | ⟨window, hf, rfl, rfl⟩
  · rw [settleWithin_call, EngineCall.acknowledgment, settleWithin_rest]
    simp [sight, hf, seen, JournalEngine.apply]
  · rw [settleWithin_call, EngineCall.acknowledgment, JournalEngine.apply]
    obtain ⟨r', calls', answered, eq⟩ := settleWithin_input { reporter with focus := reporter.focus.beginSwitch }
      recorder.start.1 1 (.startAcked recorder.start.2 (.window window reporter.focus.beginSwitch.generation))
    rw [eq]
    cases hr : recorder.registered with
    | false =>
      rw [hg, hr] at answered
      obtain ⟨rfl, rfl⟩ := answered.of_failed
      rw [settleWithin_rest, Recorder.start_of_refused (hg.trans hr)]
      simp [sight, hf, hr, seen]
    | true =>
      rw [hg, hr] at answered
      have hw : ({ reporter with focus := reporter.focus.beginSwitch } : Reporter).settling? true
          (.window window reporter.focus.beginSwitch.generation) = some window := by
        simp [Reporter.settling?, Focus.isCurrent, show reporter.armed = true from ha]
      obtain ⟨page, unclear⟩ := sight_of_window (s := ⟨reporter, ⟨recorder, [], true⟩, []⟩) hf hr
      rcases answered.of_settling hw with ⟨tab, ht, rfl, rfl⟩ | ⟨hn, rfl, rfl⟩
      · rw [settleWithin_call, EngineCall.acknowledgment, settleWithin_rest, page tab ht]
        rfl
      · rw [settleWithin_call, EngineCall.acknowledgment, settleWithin_rest, unclear hn]
        rfl

end Ready

/-- A tick leaves alone what the next one looks at. -/
lemma seen_frame (s : Station JournalEngine) (x : Sight) :
    (s.seen x).reporter.armed = s.reporter.armed ∧ (s.seen x).reporter.platform = s.reporter.platform ∧
      (s.seen x).reporter.view = s.reporter.view ∧ (s.seen x).engine.recorder.disk = s.engine.recorder.disk ∧
      (s.seen x).engine.recorder.registered = s.engine.recorder.registered := by
  have stop r := JournalEngine.stop_upshot r
  have start r := JournalEngine.start_upshot r .user
  cases x with
  | unfocused => exact ⟨rfl, rfl, rfl, (stop _).disk_eq, (stop _).registered_eq nofun⟩
  | unregistered => exact ⟨rfl, rfl, rfl, rfl, rfl⟩
  | page window url =>
    have switch := JournalEngine.switch_upshot s.engine.recorder.start.1 url
    exact ⟨rfl, rfl, rfl, switch.disk_eq.trans (start _).disk_eq,
      (switch.registered_eq nofun).trans ((start _).registered_eq nofun)⟩
  | unclear =>
    exact ⟨rfl, rfl, rfl, (stop _).disk_eq.trans (start _).disk_eq,
      ((stop _).registered_eq nofun).trans ((start _).registered_eq nofun)⟩

/-- A tick does not change what the next one finds. -/
@[simp] lemma sight_seen (s : Station JournalEngine) (x : Sight) : (s.seen x).sight = s.sight := by
  obtain ⟨_, _, hv, _, hr⟩ := s.seen_frame x
  rw [sight, sight, hv, hr]

/-- A tick leaves the recorder coherent. -/
lemma seen_coherent {s : Station JournalEngine} (co : Coherent s.engine.recorder) (x : Sight) :
    Coherent (s.seen x).engine.recorder := by
  have started : Coherent s.engine.recorder.start.1 := co.apply (.start .user)
  cases x with
  | unfocused => exact co.apply .stop
  | unregistered => exact co
  | page window url => exact started.apply (.switchUrl url)
  | unclear => exact started.apply .stop

/-- After a tick the station is at rest. -/
lemma seen_quiescent (s : Station JournalEngine) (x : Sight) :
    (s.seen x).isQuiescent = true ∧ (s.seen x).engine.alive = true := by
  cases x <;> exact ⟨rfl, rfl⟩

/-- What a tick comes to is only renewed by the next one, except that empty spans are added to the journal. -/
lemma seen_seen {s : Station JournalEngine} {x : Sight} (re : Ready s) (hx : s.sight = x) :
    ((s.seen x).seen x).reporter =
        { (s.seen x).reporter with
          focus := ⟨(s.seen x).reporter.focus.state, (s.seen x).reporter.focus.generation + 1⟩ } ∧
      ((s.seen x).seen x).engine.recorder.tracking = (s.seen x).engine.recorder.tracking ∧
      (x ≠ .unclear → ((s.seen x).seen x).engine = (s.seen x).engine) ∧
      (x = .unclear → ((s.seen x).seen x).engine.recorder.journal =
        ((s.seen x).engine.recorder.journal.write (.event .start) none).write (.event .stop) none) := by
  have frame := s.seen_frame x
  have granted := re.coherent.start_granted re.writable
  cases x with
  | unfocused =>
    have hs : s.engine.recorder.stop.stop = s.engine.recorder.stop := Recorder.stop_of_not_tracking (by simp)
    refine ⟨rfl, ?_, fun _ => ?_, nofun⟩ <;> simp [seen, hs]
  | unregistered => exact ⟨rfl, rfl, fun _ => rfl, nofun⟩
  | page window url =>
    have hr := registered_of_sight (s := s) (by simp [hx]) (by simp [hx])
    have ht : (s.engine.recorder.start.1.switch url).tracking = true := by simp [granted, hr]
    have hs : (s.engine.recorder.start.1.switch url).start.1.switch url = s.engine.recorder.start.1.switch url := by
      rw [Recorder.start_of_tracking ht, Recorder.switch_switch]
    refine ⟨rfl, ?_, fun _ => ?_, nofun⟩ <;> simp only [seen, hs]
  | unclear =>
    have hr := registered_of_sight (s := s) (by simp [hx]) (by simp [hx])
    obtain ⟨_, _, _, hd, hr'⟩ := frame
    refine ⟨rfl, by simp [seen], by simp, fun _ => ?_⟩
    exact Recorder.stop_start (by simp [seen]) (hr'.trans hr) (by rw [hd]; exact re.writable)

namespace Ready

variable {s : Station JournalEngine}

/-- A station that is ready is so after a tick. -/
lemma poll (re : Ready s) : Ready s.poll := by
  rw [re.poll_eq]
  obtain ⟨ha, hp, _, hd, _⟩ := s.seen_frame s.sight
  obtain ⟨hs, alive⟩ := s.seen_quiescent s.sight
  exact ⟨hs, alive, ha.trans re.armed, by rw [hp]; exact re.polls, seen_coherent re.coherent _,
    by rw [hd]; exact re.writable⟩

/-- The next tick finds what this one found. -/
lemma sight_poll (re : Ready s) : s.poll.sight = s.sight := by
  rw [re.poll_eq, sight_seen]

/-- The next tick renews the focus, and it adds to the journal only where the page is unclear. -/
lemma poll_poll (re : Ready s) :
    s.poll.poll.reporter =
        { s.poll.reporter with focus := ⟨s.poll.reporter.focus.state, s.poll.reporter.focus.generation + 1⟩ } ∧
      s.poll.poll.engine.recorder.tracking = s.poll.engine.recorder.tracking ∧
      (s.sight ≠ .unclear → s.poll.poll.engine = s.poll.engine) ∧
      (s.sight = .unclear → s.poll.poll.engine.recorder.journal =
        (s.poll.engine.recorder.journal.write (.event .start) none).write (.event .stop) none) := by
  rw [re.poll.poll_eq, re.sight_poll, re.poll_eq]
  exact seen_seen re rfl

/-- However many ticks there are, the station stays ready and they all find the same. -/
lemma iterate (re : Ready s) (k : Nat) : Ready (Station.poll^[k] s) ∧ (Station.poll^[k] s).sight = s.sight := by
  induction k with
  | zero => exact ⟨re, rfl⟩
  | succ k ih =>
    obtain ⟨re', hx⟩ := ih
    rw [Function.iterate_succ_apply']
    exact ⟨re'.poll, re'.sight_poll.trans hx⟩

end Ready

/-- Whatever a tick finds, further ticks come to rest and leave the focus state, the flag and the recording as the first
one left them. They write nothing either, unless the focus of a registered device is on a window that has no active tab,
or several: then each of them writes the start and the stop of an empty span. -/
theorem polling_steady {s : Station JournalEngine} (reach : Reachable s) (hs : s.isQuiescent = true)
    (ha : s.reporter.armed = true) (hp : s.reporter.platform.reliability.needsPolling = true)
    (hd : s.engine.recorder.disk.events = true) (k : Nat) :
    (poll^[k + 1] s).isQuiescent = true ∧
      (poll^[k + 1] s).reporter.focus.state = s.poll.reporter.focus.state ∧
      (poll^[k + 1] s).reporter.enabled = s.poll.reporter.enabled ∧
      (poll^[k + 1] s).engine.recorder.tracking = s.poll.engine.recorder.tracking ∧
      (s.sight ≠ .unclear →
        (poll^[k + 1] s).engine.recorder.journal.rows = s.poll.engine.recorder.journal.rows) ∧
      (s.sight = .unclear → ∃ more,
        (poll^[k + 1] s).engine.recorder.journal.rows = s.poll.engine.recorder.journal.rows ++ more ∧
          more.map Row.line = (List.replicate k [Line.start, Line.stop]).flatten) := by
  have re : Ready s := by
    obtain ⟨s₀, t, fresh, run⟩ := reach
    exact ⟨hs, run.alive fresh.alive, ha, hp, Reachable.coherent ⟨s₀, t, fresh, run⟩, hd⟩
  refine ⟨(re.iterate (k + 1)).1.quiescent, ?_⟩
  induction k with
  | zero => exact ⟨rfl, rfl, rfl, fun _ => rfl, fun _ => ⟨[], (List.append_nil _).symm, rfl⟩⟩
  | succ k ih =>
    obtain ⟨hf, he, ht, hq, hm⟩ := ih
    obtain ⟨re', hx⟩ := re.iterate k
    rw [Function.iterate_succ_apply'] at hf he ht hq hm
    rw [Function.iterate_succ_apply', Function.iterate_succ_apply']
    generalize poll^[k] s = u at hf he ht hq hm re' hx ⊢
    obtain ⟨hr, ht', hq', hm'⟩ := re'.poll_poll
    rw [hx] at hq' hm'
    refine ⟨?_, ?_, ht'.trans ht, ?_, ?_⟩
    · rw [hr]
      exact hf
    · rw [hr]
      exact he
    · intro h
      rw [hq' h]
      exact hq h
    · intro h
      obtain ⟨more, hrows, hlines⟩ := hm h
      refine ⟨more ++ [⟨u.poll.engine.recorder.journal.nextId, .event .start, none⟩,
        ⟨(u.poll.engine.recorder.journal.write (.event .start) none).nextId, .event .stop, none⟩], ?_, ?_⟩
      · rw [hm' h, Journal.write_rows, Journal.write_rows, hrows]
        simp
      · rw [List.map_append, hlines, List.replicate_succ', List.flatten_append]
        rfl

/-- The user asks to be tracked, and the focus is on a window that has no active tab. -/
def emptyWindow : List Turn := [
  .post (.control .startTracking none 0), .handle,
  .post (.notification (.snapshot [⟨1, true, [⟨7, "https://a.example", false⟩]⟩])), .handle,
  .work, .handle]

/-- With no active tab in the window, two more ticks write two empty spans. -/
theorem polling_steady_emptyWindow :
    let s := ((opened (some device)).play emptyWindow).1
    (poll^[2 + 1] s).reporter.enabled = s.poll.reporter.enabled ∧ ∃ more,
      (poll^[2 + 1] s).engine.recorder.journal.rows = s.poll.engine.recorder.journal.rows ++ more ∧
        more.map Row.line = [.start, .stop, .start, .stop] := by
  intro s
  have reach : Reachable s := ⟨_, _, opened_fresh _, .play (by simp [emptyWindow, Input.isAcknowledgment])⟩
  obtain ⟨_, _, he, _, _, hm⟩ := polling_steady reach (by decide) (by decide) (by decide) (by decide) 2
  exact ⟨he, hm (by decide)⟩

/-- A second tick can write to the journal what the first one did not, on a disk that has refused nothing. -/
theorem not_always_steady :
    let s := ((opened (some device)).play emptyWindow).1
    Reachable s ∧ s.isQuiescent = true ∧ s.reporter.armed = true ∧
      s.reporter.platform.reliability.needsPolling = true ∧ s.engine.recorder.disk.events = true ∧
      (poll^[2] s).engine.recorder.journal.rows ≠ (poll^[1] s).engine.recorder.journal.rows := by
  intro s
  have reach : Reachable s := ⟨_, _, opened_fresh _, .play (by simp [emptyWindow, Input.isAcknowledgment])⟩
  exact ⟨reach, by decide, by decide, by decide, by decide, by decide⟩

end Station

end FocusJournal
