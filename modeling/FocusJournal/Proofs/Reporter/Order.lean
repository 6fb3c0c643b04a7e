import FocusJournal.Proofs.Reporter.Switching
import Mathlib.Data.List.Nodup

/-!
# Answers in any order

Any number of starts may be pending, for the user and for windows, and an engine may grant them in any order. What comes
of it is the same. There is one pending start at most whose answer settles a window (`length_settling_le`), and the
others change nothing but the flag, before that one and after it (`handleAll_granting`), so that only the set of the
answered starts counts. `answers_commute` says so of any two orders.
-/

open scoped List

namespace FocusJournal

/-- The starts that are pending after deeds. -/
def outstanding (starts : List StartOrigin) (h : List Deed) : List StartOrigin := h.foldl Deed.pending starts

/-- The answers that grant starts, each with what the engine then says of itself. -/
def granting (order : List (Bool × StartOrigin)) : List (Bool × Input) :=
  order.map fun x => (x.1, .startAcked true x.2)

namespace Reporter

/-- The windows that one of these starts would settle if it were granted now. -/
def settling (r : Reporter) (starts : List StartOrigin) : List WindowId := starts.filterMap (r.settling? true)

/-- The focus and the calls once a window is settled, or none. -/
def settled (r : Reporter) : Option WindowId → Focus × List EngineCall
  | none => (r.focus, [])
  | some window =>
    match r.view.activeTabs window with
    | [tab] => (⟨.tracking window, r.focus.generation⟩, [.switchUrl tab.url])
    | _ => (⟨.paused, r.focus.generation⟩, [.stop])

variable {r r' : Reporter} {line : List (Bool × Input)} {order : List (Bool × StartOrigin)} {starts : List StartOrigin}

/-- What is pending belongs to different generations, whatever the reporter handles. -/
lemma pending_handleAll (p : Pending starts r) : Pending (outstanding starts (r.deeds line)) (r.handleAll line).1 := by
  induction line generalizing r starts with
  | nil => exact p
  | cons x rest ih =>
    obtain ⟨recording, i⟩ := x
    have p' : Pending starts (Deed.before ⟨r, recording, i⟩) := p
    exact ih p'.deed

/-- Of starts in different generations one at most settles a window. -/
lemma length_settling_le (p : Pending starts r) : (r.settling starts).length ≤ 1 := by
  calc (r.settling starts).length
      = starts.countP fun origin => (r.settling? true origin).isSome := List.length_filterMap_eq_countP
    _ ≤ starts.countP fun origin => origin.generation? == some r.focus.generation := by
      refine List.countP_mono_left fun origin _ h => ?_
      obtain ⟨window, hw⟩ := Option.isSome_iff_exists.1 h
      rw [(settling?_eq_some hw).2]
      simp [StartOrigin.generation?]
    _ = (starts.filterMap StartOrigin.generation?).count r.focus.generation := List.count_filterMap.symm
    _ ≤ 1 := List.nodup_iff_count_le_one.1 p.distinct _

/-- So the order of the starts does not matter to what they settle. -/
lemma settling_perm {starts' : List StartOrigin} (p : Pending starts r) (h : starts' ~ starts) :
    r.settling starts' = r.settling starts := by
  have perm : r.settling starts' ~ r.settling starts := h.filterMap _
  match settled : r.settling starts, length_settling_le p with
  | [], _ => rw [settled] at perm; exact perm.eq_nil
  | [window], _ => rw [settled] at perm; exact List.perm_singleton.1 perm

/-- Whether a start settles a window is told by the wish to be tracked and the generation. -/
lemma settling_congr (ha : r'.armed = r.armed) (hg : r'.focus.generation = r.focus.generation) :
    r'.settling starts = r.settling starts := by
  refine List.filterMap_congr fun origin _ => ?_
  cases origin with
  | user => rfl
  | window => simp [settling?, Focus.isCurrent, ha, hg]

/-- How a window is settled is told by the focus and the view. -/
lemma settled_congr (hf : r'.focus = r.focus) (hv : r'.view = r.view) : r'.settled = r.settled := by
  funext window?
  cases window? <;> simp [settled, hf, hv]

/-- A granted start that settles a window leaves the wish to be tracked and the generation as they are. -/
lemma settled_of_settling {recording origin window} (hs : r.settling? true origin = some window) :
    let d : Deed := ⟨r, recording, .startAcked true origin⟩
    (d.after.focus, d.calls) = r.settled (some window) ∧ d.after.armed = r.armed ∧
      d.after.focus.generation = r.focus.generation := by
  intro d
  have re := d.reaction
  rcases re.of_settling hs with ⟨tab, ht, after, calls⟩ | ⟨hn, after, calls⟩
  · rw [after, calls]
    exact ⟨by simp [settled, d, ht], rfl, rfl⟩
  · rw [after, calls]
    refine ⟨?_, rfl, rfl⟩
    simp only [settled, d]
    split
    · next ht => exact absurd (by rw [ht]; rfl) hn
    · rfl

/-- Of starts that are granted one settles its window, if any does, and the others change nothing but the flag. -/
lemma handleAll_granting (once : (r.settling (order.map Prod.snd)).length ≤ 1) :
    (r.handleAll (granting order)).1.armed = r.armed ∧
      ((r.handleAll (granting order)).1.focus, (r.handleAll (granting order)).2.filterMap Effect.call?) =
        r.settled (r.settling (order.map Prod.snd)).head? := by
  induction order generalizing r with
  | nil => exact ⟨rfl, rfl⟩
  | cons x rest ih =>
    obtain ⟨recording, origin⟩ := x
    let d : Deed := ⟨r, recording, .startAcked true origin⟩
    have later : (r.handleAll (granting ((recording, origin) :: rest))).1 = (d.after.handleAll (granting rest)).1 := rfl
    have calls : (r.handleAll (granting ((recording, origin) :: rest))).2.filterMap Effect.call? =
        d.calls ++ (d.after.handleAll (granting rest)).2.filterMap Effect.call? := List.filterMap_append
    rw [later, calls]
    cases hs : r.settling? true origin with
    | none =>
      obtain ⟨after, no_calls⟩ : d.after = { r with enabled := true } ∧ d.calls = [] := d.reaction.of_granted hs
      have same : d.after.settling (rest.map Prod.snd) = r.settling (((recording, origin) :: rest).map Prod.snd) := by
        calc d.after.settling (rest.map Prod.snd)
            = r.settling (rest.map Prod.snd) := settling_congr (by rw [after]) (by rw [after])
          _ = r.settling (((recording, origin) :: rest).map Prod.snd) := (List.filterMap_cons_none hs).symm
      obtain ⟨armed, outcome⟩ := ih (r := d.after) (by rwa [same])
      rw [same, settled_congr (r := r) (by rw [after]) (by rw [after])] at outcome
      rw [no_calls]
      exact ⟨armed.trans (by rw [after]), outcome⟩
    -- The others belong to other generations.
    | some window =>
      obtain ⟨outcome, armed, current⟩ :
          (d.after.focus, d.calls) = r.settled (some window) ∧ d.after.armed = r.armed ∧
            d.after.focus.generation = r.focus.generation := settled_of_settling hs
      rw [List.map_cons, settling, List.filterMap_cons_some hs] at once ⊢
      have no_other : d.after.settling (rest.map Prod.snd) = [] := by
        rw [settling_congr armed current]
        exact List.length_eq_zero_iff.1 (Nat.le_zero.1 (Nat.le_of_succ_le_succ once))
      obtain ⟨armed', rest_idle⟩ := ih (r := d.after) (by rw [no_other]; exact Nat.zero_le 1)
      rw [no_other] at rest_idle
      obtain ⟨focus, no_calls⟩ := Prod.mk.inj rest_idle
      rw [focus, no_calls, List.append_nil]
      exact ⟨armed'.trans armed, outcome⟩

/-- What comes of granting what is pending does not depend on the order. -/
lemma handleAll_granting_perm (p : Pending starts r) (h : order.map Prod.snd ~ starts) :
    (r.handleAll (granting order)).1.armed = r.armed ∧
      ((r.handleAll (granting order)).1.focus, (r.handleAll (granting order)).2.filterMap Effect.call?) =
        r.settled (r.settling starts).head? := by
  rw [← settling_perm p h]
  refine handleAll_granting ?_
  rw [settling_perm p h]
  exact length_settling_le p

/-- A settled window takes one call, to switch or to stop. -/
lemma calls_settled (window? : Option WindowId) :
    (r.settled window?).2.length ≤ 1 ∧ ∀ c ∈ (r.settled window?).2, c = .stop ∨ ∃ url, c = .switchUrl url := by
  cases window? with
  | none => simp [settled]
  | some window =>
    simp only [settled]
    split <;> simp

end Reporter

/-- Whatever starts are pending, with one answer to each that grants it the order of the answers does not matter: not to
the focus, not to the wish to be tracked and not to the calls. There is one call at most, to switch or to stop. -/
theorem answers_commute {platform registered line order order'}
    (all : order.map Prod.snd ~ outstanding [] ((Reporter.initial platform registered).deeds line))
    (all' : order'.map Prod.snd ~ outstanding [] ((Reporter.initial platform registered).deeds line)) :
    let r := ((Reporter.initial platform registered).handleAll line).1
    let done := r.handleAll (granting order)
    let done' := r.handleAll (granting order')
    let calls := done.2.filterMap Effect.call?
    done'.1.focus = done.1.focus ∧ done'.1.armed = done.1.armed ∧ done'.2.filterMap Effect.call? = calls ∧
      calls.length ≤ 1 ∧ ∀ c ∈ calls, c = .stop ∨ ∃ url, c = .switchUrl url := by
  intro r done done' calls
  have p : Pending (outstanding [] ((Reporter.initial platform registered).deeds line)) r :=
    Reporter.pending_handleAll ⟨by simp, by simp⟩
  obtain ⟨armed, outcome⟩ := Reporter.handleAll_granting_perm p all
  obtain ⟨armed', outcome'⟩ := Reporter.handleAll_granting_perm p all'
  obtain ⟨focus, same⟩ := Prod.mk.inj (outcome'.trans outcome.symm)
  obtain ⟨few, kind⟩ := Reporter.calls_settled (r := r) _
  have settled : calls = _ := (Prod.ext_iff.1 outcome).2
  rw [← settled] at few kind
  exact ⟨focus, armed'.trans armed.symm, same, few, kind⟩

/-- The focus moves from one window to another before the engine has answered any start. -/
def unanswered : List (Bool × Input) := crossedAnswers.take 4

/-- Of three pending starts the last settles its window, be it answered last or first. -/
theorem answers_commute_unanswered :
    let r := ((Reporter.initial ⟨"linux"⟩ true).handleAll unanswered).1
    let inOrder := [(false, .user), (true, .window 1 1), (true, .window 2 2)]
    (r.handleAll (granting inOrder)).2.filterMap Effect.call? = [.switchUrl "https://b.example"] ∧
      (r.handleAll (granting inOrder.reverse)).1.focus = (r.handleAll (granting inOrder)).1.focus ∧
      (r.handleAll (granting inOrder.reverse)).2.filterMap Effect.call? = [.switchUrl "https://b.example"] := by
  intro r inOrder
  have pending : outstanding [] ((Reporter.initial ⟨"linux"⟩ true).deeds unanswered) =
    [.user, .window 1 1, .window 2 2] := by decide
  have all : inOrder.map Prod.snd ~ outstanding [] ((Reporter.initial ⟨"linux"⟩ true).deeds unanswered) := by
    rw [pending]
    exact List.Perm.refl _
  have all' : inOrder.reverse.map Prod.snd ~
      outstanding [] ((Reporter.initial ⟨"linux"⟩ true).deeds unanswered) := by
    rw [pending]
    decide
  obtain ⟨focus, _, calls, _⟩ := answers_commute all all'
  have last : (r.handleAll (granting inOrder)).2.filterMap Effect.call? = [.switchUrl "https://b.example"] := by decide
  exact ⟨last, focus, calls.trans last⟩

end FocusJournal
