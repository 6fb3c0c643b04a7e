import FocusJournal.Engine.Journaling
import Mathlib.Tactic.Lemma

/-!
# What calls come to

What applying a call to a recorder can come to: the relation `Upshot` lists the cases, each with the recorder that
results and the answer, and `JournalEngine.apply_upshot` shows that there are no others. A write that the disk refuses
is a case of its own; which writes it refuses is said by `Disk`.
-/

namespace FocusJournal

/-- Which tables can be written. -/
structure Disk where
  events : Bool
  registration : Bool

namespace Journal

/-- The journal with one more row. -/
def write (j : Journal) (kind : RowKind) (app : Option String) : Journal :=
  { j with rows := j.rows ++ [⟨j.nextId, kind, app⟩] }

/-- A row is appended just where rows can be written. -/
lemma append?_eq (j : Journal) (kind : RowKind) (app : Option String) :
    j.append? kind app = if j.eventsWritable then some (j.write kind app) else none := rfl

/-- A row is written behind those that are there, with the next id. -/
@[simp] lemma write_rows (j : Journal) (kind : RowKind) (app : Option String) :
    (j.write kind app).rows = j.rows ++ [⟨j.nextId, kind, app⟩] := rfl

/-- Writing a row does not make the disk refuse the next one. -/
@[simp] lemma write_eventsWritable (j : Journal) (kind : RowKind) (app : Option String) :
    (j.write kind app).eventsWritable = j.eventsWritable := rfl

end Journal

namespace Recorder

/-- What the disk takes at present. -/
def disk (r : Recorder) : Disk := ⟨r.journal.eventsWritable, r.journal.registrationWritable⟩

/-- The recorder with the disk as it has become. -/
def onDisk (r : Recorder) (d : Disk) : Recorder :=
  { r with journal := { r.journal with eventsWritable := d.events, registrationWritable := d.registration } }

end Recorder

/-- What applying a call can come to: the recorder that results, and the answer to a start or a login. -/
inductive Upshot (r : Recorder) : EngineCall → Recorder → Bool → Prop where
  | running {origin} :
    r.tracking = true →
    Upshot r (.start origin) r true
  | unregistered {origin} :
    r.tracking = false →
    r.registered = false →
    Upshot r (.start origin) r false
  | unopened {origin} :
    r.tracking = false →
    r.registered = true →
    r.disk.events = false →
    Upshot r (.start origin) r false
  | opened {origin} :
    r.tracking = false →
    r.registered = true →
    r.disk.events = true →
    Upshot r (.start origin) { r with journal := r.journal.write (.event .start) none, tracking := true, app := none }
      true
  | idle :
    r.tracking = false →
    Upshot r .stop r true
  | unclosed :
    r.tracking = true →
    r.disk.events = false →
    Upshot r .stop { r with tracking := false, app := none } true
  | closed :
    r.tracking = true →
    r.disk.events = true →
    Upshot r .stop { r with journal := r.journal.write (.event .stop) none, tracking := false, app := none } true
  | discarded {url} :
    r.tracking = false →
    Upshot r (.switchUrl url) r true
  | repeated {url} :
    r.tracking = true →
    r.app = some (appName url) →
    Upshot r (.switchUrl url) r true
  | unnoted {url} :
    r.tracking = true →
    r.app ≠ some (appName url) →
    r.disk.events = false →
    Upshot r (.switchUrl url) r true
  | noted {url} :
    r.tracking = true →
    r.app ≠ some (appName url) →
    r.disk.events = true →
    Upshot r (.switchUrl url)
      { r with journal := r.journal.write (.event .switch) (some (appName url)), app := some (appName url) } true
  | rejected {credentials id asker} :
    Recorder.accepts credentials = false →
    Upshot r (.login credentials id asker) r false
  | unsaved {credentials id asker} :
    Recorder.accepts credentials = true →
    r.disk.registration = false →
    Upshot r (.login credentials id asker) r false
  | registered {credentials id asker} :
    Recorder.accepts credentials = true →
    r.disk.registration = true →
    Upshot r (.login credentials id asker)
      { r with
        journal := { r.journal with registration := some (Recorder.registrationOf credentials) }
        registered := true } true

namespace JournalEngine

/-- A start comes to what is listed of it. -/
lemma start_upshot (r : Recorder) (origin : StartOrigin) : Upshot r (.start origin) r.start.1 r.start.2 := by
  cases ht : r.tracking with
  | true =>
    rw [Recorder.start_of_tracking ht]
    exact .running ht
  | false =>
    cases hr : r.registered with
    | false => simpa [Recorder.start, ht, hr] using Upshot.unregistered ht hr
    | true =>
      cases hd : r.journal.eventsWritable with
      | false => simpa [Recorder.start, ht, hr, Journal.append?_eq, hd] using Upshot.unopened ht hr hd
      | true => simpa [Recorder.start, ht, hr, Journal.append?_eq, hd] using Upshot.opened ht hr hd

/-- A stop comes to what is listed of it. -/
lemma stop_upshot (r : Recorder) : Upshot r .stop r.stop true := by
  cases ht : r.tracking with
  | false =>
    rw [Recorder.stop_of_not_tracking ht]
    exact .idle ht
  | true =>
    cases hd : r.journal.eventsWritable with
    | false => simpa [Recorder.stop, ht, Journal.append?_eq, hd] using Upshot.unclosed ht hd
    | true => simpa [Recorder.stop, ht, Journal.append?_eq, hd] using Upshot.closed ht hd

/-- A switch comes to what is listed of it. -/
lemma switch_upshot (r : Recorder) (url : String) : Upshot r (.switchUrl url) (r.switch url) true := by
  cases ht : r.tracking with
  | false =>
    rw [Recorder.switch_of_not_tracking ht]
    exact .discarded ht
  | true =>
    by_cases ha : r.app = some (appName url)
    · simpa [Recorder.switch, ht, ha] using Upshot.repeated ht ha
    · cases hd : r.journal.eventsWritable with
      | false => simpa [Recorder.switch, ht, ha, Journal.append?_eq, hd] using Upshot.unnoted ht ha hd
      | true => simpa [Recorder.switch, ht, ha, Journal.append?_eq, hd] using Upshot.noted ht ha hd

/-- A login comes to what is listed of it. -/
lemma login_upshot (r : Recorder) (credentials : Credentials) (id : Option String) (asker : Asker) :
    Upshot r (.login credentials id asker) (r.login credentials).1 (r.login credentials).2 := by
  cases ha : Recorder.accepts credentials with
  | false => simpa [Recorder.login, ha] using Upshot.rejected ha
  | true =>
    cases hd : r.journal.registrationWritable with
    | false => simpa [Recorder.login, ha, Journal.save?, hd] using Upshot.unsaved ha hd
    | true => simpa [Recorder.login, ha, Journal.save?, hd] using Upshot.registered ha hd

/-- Every call comes to one of the cases that `Upshot` lists. -/
theorem apply_upshot (r : Recorder) (c : EngineCall) : Upshot r c (apply r c).1 (apply r c).2 := by
  cases c with
  | start origin => exact start_upshot r origin
  | stop => exact stop_upshot r
  | switchUrl url => exact switch_upshot r url
  | login credentials id asker => exact login_upshot r credentials id asker

end JournalEngine

/-- A call has no part in which tables can be written. -/
lemma Upshot.disk_eq {r r' : Recorder} {c success} (up : Upshot r c r' success) : r'.disk = r.disk := by
  cases up <;> rfl

/-- Only a login registers a device. -/
lemma Upshot.registered_eq {r r' : Recorder} {c success} (up : Upshot r c r' success)
    (hc : ∀ credentials id asker, c ≠ .login credentials id asker) : r'.registered = r.registered := by
  cases up with
  | registered _ _ => exact absurd rfl (hc _ _ _)
  | _ => rfl

namespace Recorder

/-- A start that is refused changes nothing. -/
lemma start_of_refused {r : Recorder} (h : r.start.2 = false) : r.start.1 = r := by
  have up := JournalEngine.start_upshot r .user
  rw [h] at up
  generalize r.start.1 = r' at up
  cases up <;> rfl

/-- A URL that is switched to twice is noted once. -/
lemma switch_switch (r : Recorder) (url : String) : (r.switch url).switch url = r.switch url := by
  have up := JournalEngine.switch_upshot r url
  generalize h : r.switch url = r' at up
  cases up with
  | noted ht _ _ => simp [switch, ht]
  | _ => exact h

/-- A start and a stop write an empty span. -/
lemma stop_start {r : Recorder} (ht : r.tracking = false) (hr : r.registered = true) (hd : r.disk.events = true) :
    r.start.1.stop.journal = (r.journal.write (.event .start) none).write (.event .stop) none := by
  have hd' : r.journal.eventsWritable = true := hd
  simp [start, stop, ht, hr, Journal.append?_eq, hd']

end Recorder

/-- A recorder that takes up a journal closes the span that is open there, and writes nothing else. -/
lemma Recorder.open?_eq_some {j : Journal} {r : Recorder} :
    Recorder.open? j = some r ↔ ∃ j', r = ⟨j', false, j'.registration.isSome, none⟩ ∧
      (j.lastMark? ≠ some .start ∧ j' = j ∨
        j.lastMark? = some .start ∧ j.eventsWritable = true ∧ j' = j.write (.event .stop) none) := by
  have eq : Recorder.open? j =
      (if j.lastMark? = some .start then if j.eventsWritable then some (j.write (.event .stop) none) else none
        else some j).map fun j => ⟨j, false, j.registration.isSome, none⟩ := rfl
  rw [eq, Option.map_eq_some_iff]
  refine exists_congr fun j' => ?_
  rw [and_comm, @eq_comm _ r]
  refine and_congr_right fun _ => ?_
  by_cases hm : j.lastMark? = some .start
  · by_cases hd : j.eventsWritable = true
    · simp only [hm, hd, ite_true, Option.some.injEq, ne_eq, not_true, false_and, true_and, false_or, eq_comm]
    · simp [hm, hd]
  · simp only [hm, ite_false, Option.some.injEq, ne_eq, not_false_iff, true_and, false_and, or_false, eq_comm]

end FocusJournal
