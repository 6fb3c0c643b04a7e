import FocusJournal.Proofs.Reporter.Reaction
import Mathlib.Data.List.Basic

/-!
# Switching

A switch to a window begins when the engine is asked to start, and it is settled when that start is answered. In between
the reporter may be told anything, and the engine may answer other starts first. What keeps the switches apart is the
generation: it moves on with every switch, every pause and every stop that the user asks for, and nothing moves it back.

`Reporter.deeds` is what a reporter does about a line of inputs. The main statement is `switches_settle`: with an engine
that answers each start at most once, in whatever order, switches are settled in the order in which they began, each at
most once, and none after it was superseded. That a switch begins, is superseded or is settled shows in what the
reporter asks of the engine: `Deed.entered_iff`, `Deed.supersedes_iff`, `Deed.settled` and `Deed.unsettled`.
-/

open scoped List

namespace FocusJournal

/-- Whether a directive moves the focus, to a window or away from all. -/
def Directive.moves : Directive → Bool
  | .ignore => false
  | .switchUrl _ => false
  | .switchToWindow _ => true
  | .pause => true

namespace Reaction

variable {r r' : Reporter} {i : Input} {calls : List EngineCall}

/-- Nothing moves the generation back. -/
lemma generation_le (re : Reaction r i r' calls) : r.focus.generation ≤ r'.focus.generation := by
  cases re with
  | idle _ _ _ => simp
  | switch _ _ => simp
  | enter _ _ => exact Nat.le_succ _
  | leave _ _ => exact Nat.le_succ _
  | withdraw => exact Nat.le_succ _
  | _ => exact Nat.le_refl _

/-- An event that moves the focus moves the generation on. -/
lemma generation_of_moves (re : Reaction r i r' calls) {event} (he : i.event? = some event)
    (hm : ((r.look i).directive event).moves = true) : r'.focus.generation = r.focus.generation + 1 := by
  cases re with
  | idle _ _ hi => rw [hi event he] at hm; cases hm
  | switch he' hd => cases he.symm.trans he'; rw [hd] at hm; cases hm
  | enter _ _ => rfl
  | leave _ _ => rfl
  | _ => cases he

/-- So does a stop that the user asks for. -/
lemma generation_of_withdrawn (re : Reaction r i r' calls) (hw : i.word? = some .withdrawn) :
    r'.focus.generation = r.focus.generation + 1 := by
  cases re with
  | idle h _ _ => rw [h] at hw; cases hw
  | switch he _ => rw [Input.word?_of_event he] at hw; cases hw
  | enter _ _ => rfl
  | leave _ _ => rfl
  | withdraw => rfl
  | _ => cases hw

/-- The acknowledgment of a start leaves the generation as it is and leads to no other start. -/
lemma of_told (re : Reaction r i r' calls) {origin} (ht : i.told? = some origin) :
    r'.focus.generation = r.focus.generation ∧ calls.filterMap EngineCall.begun? = [] := by
  have he : i.event? = none := by
    cases i with
    | startAcked => rfl
    | _ => cases ht
  cases re with
  | enter he' _ => rw [he] at he'; cases he'
  | leave he' _ => rw [he] at he'; cases he'
  | idle _ _ _ => exact ⟨by simp, rfl⟩
  | switch _ _ => exact ⟨by simp, rfl⟩
  | ask => cases ht
  | withdraw => cases ht
  | _ => exact ⟨rfl, rfl⟩

end Reaction

/-- An input and the reporter that handles it, with what its engine then says of itself. -/
structure Deed where
  before : Reporter
  recording : Bool
  input : Input

namespace Deed

/-- The reporter when it has handled the input. -/
def after (d : Deed) : Reporter := (d.before.handle d.recording d.input).1

/-- What it asks of the engine. -/
def calls (d : Deed) : List EngineCall := (d.before.handle d.recording d.input).2.filterMap Effect.call?

/-- The directive that it carries out. -/
def directive (d : Deed) : Directive := (d.input.event?.map (d.before.look d.input).directive).getD .ignore

/-- The switch that begins, told by its window and its generation. -/
def entered? (d : Deed) : Option StartOrigin :=
  match d.directive with
  | .switchToWindow window => some (.window window d.after.focus.generation)
  | _ => none

/-- The switch that is settled: an acknowledgment that leads to a call settles the one that its start was asked for. -/
def settled? (d : Deed) : Option StartOrigin := if d.calls = [] then none else d.input.told?

/-- Whether all switches that began before are superseded: by another one, a pause or a stop that the user asks for. -/
def supersedes (d : Deed) : Bool := d.directive.moves || d.input.word? = some .withdrawn

variable {d : Deed} {origin : StartOrigin}

/-- What a deed does is one of the reactions to its input. -/
lemma reaction : Reaction d.before d.input d.after d.calls := d.before.handle_reaction d.recording d.input

/-- The directive of a deed is the one that its event gives once the reporter has looked. -/
lemma directive_eq {event} (he : d.input.event? = some event) :
    d.directive = (d.before.look d.input).directive event := by
  simp [directive, he]

/-- A switch begins with an event, a call to start the engine and a new generation. -/
lemma entered (h : d.entered? = some origin) :
    d.input.told? = none ∧ d.calls = [.start origin] ∧ d.after.focus.generation = d.before.focus.generation + 1 ∧
      origin.generation? = some d.after.focus.generation := by
  simp only [entered?] at h
  split at h
  · next window hd =>
    cases h
    cases he : d.input.event? with
    | none => simp [directive, he] at hd
    | some event =>
      have hd' := (directive_eq he).symm.trans hd
      have hg := d.reaction.generation_of_moves he (by rw [hd']; rfl)
      refine ⟨Input.told?_of_event he, ?_, hg, rfl⟩
      rw [d.reaction.of_event he, hd', hg]
      rfl
  · cases h

/-- Where no switch begins, no start is asked for but the user's. -/
lemma begun_of_not_entered (h : d.entered? = none) :
    ∀ origin ∈ d.calls.filterMap EngineCall.begun?, origin.generation? = none := by
  intro origin ho
  obtain ⟨c, hc, hco⟩ := List.mem_filterMap.1 ho
  obtain rfl : c = .start origin := EngineCall.begun?_eq_some.1 hco
  rcases d.reaction.of_start hc with ⟨rfl, _⟩ | ⟨event, window, he, hd, _⟩
  · rfl
  · simp [entered?, directive_eq he, hd] at h

/-- A switch begins where the engine is asked to start for a window. -/
lemma entered_iff : d.entered? = some origin ↔ d.calls = [.start origin] ∧ origin ≠ .user := by
  constructor
  · intro h
    obtain ⟨_, hc, _, hg⟩ := entered h
    refine ⟨hc, ?_⟩
    rintro rfl
    cases hg
  · rintro ⟨hc, hu⟩
    rcases d.reaction.of_start (hc ▸ List.mem_singleton_self _) with ⟨rfl, _⟩ | ⟨event, window, he, hd, rfl⟩
    · exact absurd rfl hu
    · simp [entered?, directive_eq he, hd]

/-- A switch is settled when its start is answered, if it is the current one. -/
lemma settled (h : d.settled? = some origin) :
    d.input.told? = some origin ∧
      ∃ window, origin = .window window d.before.focus.generation ∧ d.before.Completes window d.after d.calls := by
  simp only [settled?] at h
  split at h
  · cases h
  · next hc =>
    refine ⟨h, ?_⟩
    have re := d.reaction
    cases hi : d.input with
    | startAcked success origin' =>
      rw [hi] at h re
      cases h
      rcases re.of_started with ⟨window, hw, done⟩ | ⟨_, _, no_calls⟩
      · exact ⟨window, (Reporter.settling?_eq_some hw).2, done⟩
      · exact absurd no_calls hc
    | _ => rw [hi] at h; cases h

/-- A switch is settled in its own generation. -/
lemma generation_of_settled (h : d.settled? = some origin) :
    origin.generation? = some d.before.focus.generation := by
  obtain ⟨_, window, rfl, _⟩ := settled h
  rfl

/-- An acknowledgment that settles no switch leads to no call and leaves the focus alone. -/
lemma unsettled (ht : d.input.told? ≠ none) (h : d.settled? = none) :
    d.calls = [] ∧ d.after.focus = d.before.focus := by
  have no_calls : d.calls = [] := by
    by_contra hc
    rw [settled?, if_neg hc] at h
    exact ht h
  refine ⟨no_calls, ?_⟩
  have re := d.reaction
  cases hi : d.input with
  | startAcked success origin =>
    rw [hi] at re
    rcases re.of_started with ⟨_, _, done⟩ | ⟨_, same, _⟩
    · exact absurd no_calls done.calls_ne
    · exact same
  | _ => rw [hi] at ht; exact absurd rfl ht

/-- What began before is superseded where another switch begins or the engine is asked to stop, and not in answer to a
start. -/
lemma supersedes_iff :
    d.supersedes = true ↔ (∃ origin, d.entered? = some origin) ∨ d.calls = [.stop] ∧ d.input.told? = none := by
  constructor
  · intro h
    simp only [supersedes, Bool.or_eq_true, decide_eq_true_eq] at h
    rcases h with hm | hw
    · cases hd : d.directive with
      | ignore | switchUrl => rw [hd] at hm; cases hm
      | switchToWindow window => exact .inl ⟨.window window d.after.focus.generation, by rw [entered?, hd]⟩
      | pause =>
        cases he : d.input.event? with
        | none => simp [directive, he] at hd
        | some event =>
          exact .inr ⟨(d.reaction.of_leaving he ((directive_eq he).symm.trans hd)).2, Input.told?_of_event he⟩
    · refine .inr ⟨d.reaction.of_word hw, ?_⟩
      cases hi : d.input with
      | startAcked success origin =>
        rw [hi] at hw
        cases success <;> cases origin <;> cases hw
      | _ => rfl
  · rintro (⟨origin, h⟩ | ⟨hc, ht⟩)
    · simp only [entered?] at h
      split at h
      · next window hd => simp [supersedes, hd, Directive.moves]
      · cases h
    · rcases d.reaction.of_stop (hc ▸ List.mem_singleton_self _) with ⟨event, he, hd⟩ | hw | told
      · simp [supersedes, directive_eq he, hd, Directive.moves]
      · simp [supersedes, hw]
      · exact absurd ht told

/-- What is superseded belongs to an earlier generation. -/
lemma generation_of_supersedes (h : d.supersedes = true) :
    d.after.focus.generation = d.before.focus.generation + 1 := by
  simp only [supersedes, Bool.or_eq_true, decide_eq_true_eq] at h
  rcases h with hm | hw
  · cases he : d.input.event? with
    | none => simp [directive, he, Directive.moves] at hm
    | some event =>
      rw [directive_eq he] at hm
      exact d.reaction.generation_of_moves he hm
  · exact d.reaction.generation_of_withdrawn hw

end Deed

/-- What a reporter does about a line of inputs, each with what the engine then says of itself. -/
def Reporter.deeds (r : Reporter) : List (Bool × Input) → List Deed
  | [] => []
  | (recording, i) :: rest => ⟨r, recording, i⟩ :: (Deed.after ⟨r, recording, i⟩).deeds rest

namespace Reporter

variable {r : Reporter} {line : List (Bool × Input)} {d : Deed}

/-- No deed comes before the generation in which the line begins. -/
lemma generation_le_of_mem_deeds (hd : d ∈ r.deeds line) : r.focus.generation ≤ d.before.focus.generation := by
  induction line generalizing r with
  | nil => cases hd
  | cons x rest ih =>
    obtain ⟨recording, i⟩ := x
    rcases List.mem_cons.1 hd with rfl | hd
    · exact Nat.le_refl _
    · exact Nat.le_trans (r.handle_reaction recording i).generation_le (ih hd)

/-- What comes after a deed is a line of deeds of the reporter that it leaves. -/
lemma deeds_of_append {h₁ h₂ : List Deed} (h : r.deeds line = h₁ ++ d :: h₂) : ∃ line₂, h₂ = d.after.deeds line₂ := by
  induction h₁ generalizing r line with
  | nil =>
    cases line with
    | nil => cases h
    | cons x rest =>
      obtain ⟨rfl, rfl⟩ := List.cons.inj h
      exact ⟨rest, rfl⟩
  | cons _ h₁ ih =>
    cases line with
    | nil => cases h
    | cons x rest => exact ih (List.cons.inj h).2

/-- Switches that begin later have other generations. -/
lemma entered_nodup : ((r.deeds line).filterMap Deed.entered?).Nodup := by
  induction line generalizing r with
  | nil => exact List.nodup_nil
  | cons x rest ih =>
    rw [deeds, List.filterMap_cons]
    split
    · exact ih
    · next origin ho =>
      refine List.nodup_cons.2 ⟨?_, ih⟩
      intro hm
      obtain ⟨d, hd, ho'⟩ := List.mem_filterMap.1 hm
      obtain ⟨_, _, _, hg⟩ := Deed.entered ho
      obtain ⟨_, _, hlt, hg'⟩ := Deed.entered ho'
      have hle := generation_le_of_mem_deeds hd
      have heq := Option.some.inj (hg.symm.trans hg')
      omega

end Reporter

/-- The starts that are pending after a deed: an answer takes one away. -/
def Deed.pending (starts : List StartOrigin) (d : Deed) : List StartOrigin :=
  d.input.told?.elim starts starts.erase ++ d.calls.filterMap EngineCall.begun?

/-- Whether the engine answers only what is pending, and so each start once at most. -/
def answeredOnce (starts : List StartOrigin) : List Deed → Bool
  | [] => true
  | d :: h => d.input.told?.all (· ∈ starts) && answeredOnce (d.pending starts) h

/-- No two pending starts belong to one switch, and none to a switch yet to come. -/
structure Pending (starts : List StartOrigin) (r : Reporter) : Prop where
  distinct : (starts.filterMap StartOrigin.generation?).Nodup
  bounded : ∀ g ∈ starts.filterMap StartOrigin.generation?, g ≤ r.focus.generation

/-- The pending start of the current switch. -/
def current (starts : List StartOrigin) (r : Reporter) : List StartOrigin :=
  starts.filter fun origin => origin.generation? = some r.focus.generation

namespace Pending

variable {r : Reporter} {line : List (Bool × Input)} {starts : List StartOrigin} {d : Deed} {origin : StartOrigin}

/-- An answer leaves the other pending starts in their order. -/
lemma kept_sublist : d.input.told?.elim starts starts.erase <+ starts := by
  cases d.input.told? with
  | none => exact List.Sublist.refl _
  | some origin => exact List.erase_sublist

/-- What a deed leaves pending of a kind of switch is what was, where no switch begins. -/
lemma filter_pending_sublist {p : StartOrigin → Bool} (he : d.entered? = none)
    (hp : ∀ origin, p origin = true → origin.generation? ≠ none) :
    (d.pending starts).filter p <+ starts.filter p := by
  rw [Deed.pending, List.filter_append]
  have hb : (d.calls.filterMap EngineCall.begun?).filter p = [] :=
    List.filter_eq_nil_iff.2 fun origin ho h => hp origin h (Deed.begun_of_not_entered he origin ho)
  rw [hb, List.append_nil]
  exact kept_sublist.filter p

/-- A deed keeps the pending starts apart, the one that it may add included. -/
lemma deed (p : Pending starts d.before) : Pending (d.pending starts) d.after := by
  cases he : d.entered? with
  | none =>
    have hs : (d.pending starts).filterMap StartOrigin.generation? <+ starts.filterMap StartOrigin.generation? := by
      rw [Deed.pending, List.filterMap_append, List.filterMap_eq_nil_iff.2 (Deed.begun_of_not_entered he),
        List.append_nil]
      exact kept_sublist.filterMap _
    exact ⟨hs.nodup p.distinct, fun g hg => Nat.le_trans (p.bounded g (hs.subset hg)) d.reaction.generation_le⟩
  -- The start that joins the pending ones belongs to a new generation.
  | some origin =>
    obtain ⟨ht, hc, hg, ho⟩ := Deed.entered he
    have hs : (d.pending starts).filterMap StartOrigin.generation? =
        starts.filterMap StartOrigin.generation? ++ [d.after.focus.generation] := by
      simp [Deed.pending, ht, hc, EngineCall.begun?, ho]
    constructor
    · rw [hs]
      refine List.nodup_append.2 ⟨p.distinct, by simp, ?_⟩
      intro g hm g' hm' heq
      have hle := p.bounded g hm
      have := List.mem_singleton.1 hm'
      omega
    · intro g hm
      rw [hs] at hm
      rcases List.mem_append.1 hm with hm | hm
      · exact Nat.le_trans (p.bounded g hm) d.reaction.generation_le
      · exact Nat.le_of_eq (List.mem_singleton.1 hm)

/-- Once its start is answered, nothing of the current switch is pending. -/
lemma current_erase (p : Pending starts r) (hm : origin ∈ starts)
    (hg : origin.generation? = some r.focus.generation) : current (starts.erase origin) r = [] := by
  have hd := ((List.perm_cons_erase hm).filterMap StartOrigin.generation?).nodup_iff.1 p.distinct
  rw [List.filterMap_cons_some hg, List.nodup_cons] at hd
  refine List.filter_eq_nil_iff.2 fun o ho ho' => hd.1 ?_
  exact List.mem_filterMap.2 ⟨o, ho, by simpa using ho'⟩

/-- Nothing pending belongs to a generation yet to come. -/
lemma current_of_lt {r' : Reporter} (p : Pending starts r) (hlt : r.focus.generation < r'.focus.generation) :
    current starts r' = [] := by
  refine List.filter_eq_nil_iff.2 fun o ho ho' => ?_
  have hle := p.bounded _ (List.mem_filterMap.2 ⟨o, ho, by simpa using ho'⟩)
  omega

/-- A deed settles the current switch, which was pending and is not any more, or begins a new current one, or neither. -/
lemma settled_sublist_deed {settled entered : List StartOrigin} (p : Pending starts d.before)
    (answers : d.input.told?.all (· ∈ starts) = true)
    (later : settled <+ current (d.pending starts) d.after ++ entered) :
    d.settled?.toList ++ settled <+ current starts d.before ++ (d.entered?.toList ++ entered) := by
  cases hs : d.settled? with
  -- The answer leaves nothing of the current switch, so what is settled later begins later.
  | some origin =>
    have ht := (Deed.settled hs).1
    have ho := Deed.generation_of_settled hs
    obtain ⟨hg, hb⟩ := d.reaction.of_told ht
    rw [ht, Option.all_some, decide_eq_true_eq] at answers
    have none_left : current (d.pending starts) d.after = [] := by
      rw [Deed.pending, ht, hb, Option.elim_some, List.append_nil, current, hg]
      exact p.current_erase answers ho
    rw [none_left, List.nil_append] at later
    refine List.Sublist.append (List.singleton_sublist.2 (List.mem_filter.2 ⟨answers, by simpa using ho⟩)) ?_
    exact later.trans (List.sublist_append_right _ _)
  | none =>
    rw [Option.toList_none, List.nil_append]
    cases he : d.entered? with
    -- Of the new generation only the start that begins it is pending.
    | some origin =>
      obtain ⟨ht, hc, hg, ho⟩ := Deed.entered he
      have only : current (d.pending starts) d.after = [origin] := by
        have none_left : current starts d.after = [] := p.current_of_lt (by omega)
        rw [current] at none_left ⊢
        simp [Deed.pending, ht, hc, EngineCall.begun?, List.filter_append, none_left, ho]
      rw [only] at later
      exact later.trans (List.sublist_append_right _ _)
    | none =>
      refine later.trans (List.Sublist.append ?_ (List.Sublist.refl _))
      refine (filter_pending_sublist he fun o h => by simp_all).trans ?_
      -- What was current is so still, unless a pause or a stop has moved the generation on.
      rcases Nat.lt_or_eq_of_le d.reaction.generation_le with hlt | heq
      · have none_left := p.current_of_lt hlt
        rw [current] at none_left
        rw [none_left]
        exact List.nil_sublist _
      · rw [current, heq]

/-- Switches are settled in the order in which they began, after the current one if that is pending. -/
lemma settled_sublist (p : Pending starts r) (once : answeredOnce starts (r.deeds line) = true) :
    (r.deeds line).filterMap Deed.settled? <+ current starts r ++ (r.deeds line).filterMap Deed.entered? := by
  simp only [List.filterMap_eq_flatMap_toList]
  induction line generalizing r starts with
  | nil => simp [Reporter.deeds]
  | cons x rest ih =>
    obtain ⟨recording, i⟩ := x
    rw [Reporter.deeds, answeredOnce, Bool.and_eq_true] at once
    have p' : Pending starts (Deed.before ⟨r, recording, i⟩) := p
    exact settled_sublist_deed p' once.1 (ih p'.deed once.2)

end Pending

/-- No switch is settled that belongs to a generation before the line. -/
lemma Reporter.generation_le_of_settled {r : Reporter} {line d origin g} (hd : d ∈ r.deeds line)
    (hs : d.settled? = some origin) (hg : origin.generation? = some g) : r.focus.generation ≤ g := by
  cases hg.symm.trans (Deed.generation_of_settled hs)
  exact generation_le_of_mem_deeds hd

/-- With an engine that answers each start at most once, in whatever order, the switches that are settled are some of
those that began, in the same order; no two that began are the same, so none is settled twice; and none is settled after
it was superseded, whatever the user says then. A switch begins where the engine is asked to start for a window, and it
is superseded where another begins or the engine is asked to stop; where one is settled, the reporter follows the one
active tab of its window or gives up; and an acknowledgment that settles none leads to no call and leaves the focus
alone. -/
theorem switches_settle {platform registered line}
    (once : answeredOnce [] ((Reporter.initial platform registered).deeds line) = true) :
    let deeds := (Reporter.initial platform registered).deeds line
    deeds.filterMap Deed.settled? <+ deeds.filterMap Deed.entered? ∧ (deeds.filterMap Deed.entered?).Nodup ∧
      (∀ h₁ d h₂ d' h₃ origin, deeds = h₁ ++ d :: (h₂ ++ d' :: h₃) → d.entered? = some origin →
        d'.supersedes = true → ∀ d'' ∈ h₃, d''.settled? ≠ some origin) ∧
      ∀ d ∈ deeds,
        (∀ origin, d.entered? = some origin ↔ d.calls = [.start origin] ∧ origin ≠ .user) ∧
        (d.supersedes = true ↔ (∃ origin, d.entered? = some origin) ∨ d.calls = [.stop] ∧ d.input.told? = none) ∧
        (∀ origin, d.settled? = some origin → ∃ window generation, origin = .window window generation ∧
          d.before.Completes window d.after d.calls) ∧
        (d.input.told? ≠ none → d.settled? = none → d.calls = [] ∧ d.after.focus = d.before.focus) := by
  intro deeds
  refine ⟨Pending.settled_sublist ⟨by simp, by simp⟩ once, Reporter.entered_nodup, ?superseded, ?done⟩
  case superseded =>
    intro h₁ d h₂ d' h₃ origin heq ho hs d'' hm ho'
    obtain ⟨line₂, heq₂⟩ := Reporter.deeds_of_append heq
    obtain ⟨line₃, rfl⟩ := Reporter.deeds_of_append heq₂.symm
    obtain ⟨_, _, _, hg⟩ := Deed.entered ho
    -- A switch is settled in its own generation, and that has passed.
    have before := Reporter.generation_le_of_mem_deeds (heq₂ ▸ List.mem_append_right _ (List.mem_cons_self ..))
    have after := Reporter.generation_le_of_settled hm ho' hg
    have hlt := Deed.generation_of_supersedes hs
    omega
  case done =>
    intro d _
    refine ⟨fun origin => Deed.entered_iff, Deed.supersedes_iff, fun origin hs => ?_, Deed.unsettled⟩
    obtain ⟨_, window, ho, done⟩ := Deed.settled hs
    exact ⟨window, _, ho, done⟩

/-- The focus moves from one window to another, and the engine answers in the opposite order. -/
def crossedAnswers : List (Bool × Input) := [
  (false, .control .startTracking none 0),
  (false, .notification (.snapshot [
    ⟨1, true, [⟨7, "https://a.example", true⟩]⟩,
    ⟨2, false, [⟨8, "https://b.example", true⟩]⟩])),
  (false, .focus (.windowFocusChanged 1)),
  (false, .focus (.windowFocusChanged 2)),
  (true, .startAcked true (.window 2 2)),
  (true, .control .startTracking none 1),
  (true, .startAcked true (.window 1 1)),
  (true, .startAcked true .user)]

/-- Of two crossed answers only that for the second window settles it, though the user asks to be tracked again. -/
theorem switches_settle_crossedAnswers :
    let deeds := (Reporter.initial ⟨"linux"⟩ true).deeds crossedAnswers
    answeredOnce [] deeds = true ∧ deeds.filterMap Deed.settled? = [.window 2 2] ∧
      deeds.filterMap Deed.settled? <+ deeds.filterMap Deed.entered? ∧
      ∀ d ∈ deeds.drop 4, d.settled? ≠ some (.window 1 1) := by
  intro deeds
  have once : answeredOnce [] deeds = true := by decide
  obtain ⟨order, _, superseded, _⟩ := switches_settle once
  exact ⟨once, by decide, order, superseded (deeds.take 2) _ [] _ (deeds.drop 4) _ rfl rfl rfl⟩

end FocusJournal
