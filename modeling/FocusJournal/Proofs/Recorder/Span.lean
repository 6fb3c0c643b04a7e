import FocusJournal.Proofs.Recorder.Upshot

/-!
# Open spans

What stands in a journal, its rows read as lines without their ids, and what a recorder has to do with it: while it
records, the journal ends with a span that is open, and the application that the recorder remembers is the one that the
last switch of this span went to. `Coherent` says so, and no call changes it, whatever becomes of the disk. Hence a
switch that a recorder is asked for while it records is what the journal shows last: `Coherent.switch_shows`.
-/

namespace FocusJournal

/-- What a row says. -/
structure Line where
  kind : RowKind
  app : Option String
  deriving DecidableEq

namespace Line

/-- A span begins. -/
def start : Line := ⟨.event .start, none⟩

/-- A span ends. -/
def stop : Line := ⟨.event .stop, none⟩

/-- An application is switched to. -/
def switch (app : String) : Line := ⟨.event .switch, some app⟩

/-- The start or the stop that a line is. -/
def mark? (l : Line) : Option EventKind :=
  match l.kind with
  | .event .start => some .start
  | .event .stop => some .stop
  | _ => none

/-- An open span in which the applications were switched to. -/
def span (apps : List String) : List Line := start :: apps.map switch

/-- An open span has one mark, the start that opens it. -/
@[simp] lemma marks_span (apps : List String) : (span apps).filterMap mark? = [.start] := by
  have hs : (apps.map switch).filterMap mark? = [] := by simp [switch, mark?]
  rw [span, List.filterMap_cons, hs]
  rfl

/-- The last switch of a span comes at its end. -/
lemma span_concat (apps : List String) (app : String) : span (apps ++ [app]) = span apps ++ [switch app] := by
  simp [span]

end Line

/-- What the row says, without its id. -/
def Row.line (row : Row) : Line := ⟨row.kind, row.app⟩

namespace Journal

/-- What the rows of the journal say. -/
def lines (j : Journal) : List Line := j.rows.map Row.line

/-- A row that is written is the last line of the journal. -/
@[simp] lemma lines_write (j : Journal) (kind : RowKind) (app : Option String) :
    (j.write kind app).lines = j.lines ++ [⟨kind, app⟩] := by
  simp [lines, Row.line]

/-- The starts and stops of the journal. -/
def marks (j : Journal) : List EventKind := j.lines.filterMap Line.mark?

/-- The last mark that the recorder finds in a journal is the last of its starts and stops. -/
lemma lastMark?_eq (j : Journal) : j.lastMark? = j.marks.getLast? := by
  rw [lastMark?, marks, lines, List.filterMap_map]
  rfl

/-- The journal ends with an open span whose last switch goes to the application. -/
def Shows (j : Journal) (app : String) : Prop := ∃ past apps, j.lines = past ++ Line.span (apps ++ [app])

end Journal

/-- While the recorder records, a device is registered, the journal ends with an open span, and the application that is
remembered is the last one there. -/
structure Coherent (r : Recorder) : Prop where
  registered : r.tracking = true → r.registered = true
  span : r.tracking = true → ∃ past apps, r.journal.lines = past ++ Line.span apps ∧ r.app = apps.getLast?

namespace Coherent

variable {r r' : Recorder} {c : EngineCall} {success : Bool}

/-- A recorder that does not record is coherent, whatever stands in its journal. -/
lemma of_not_tracking (ht : r.tracking = false) : Coherent r := by
  constructor <;> simp [ht]

/-- What the disk refuses from now on makes no recorder incoherent. -/
lemma onDisk (co : Coherent r) (d : Disk) : Coherent (r.onDisk d) := ⟨co.registered, co.span⟩

/-- A coherent recorder is so after a call, whatever the call comes to. -/
lemma upshot (co : Coherent r) (up : Upshot r c r' success) : Coherent r' := by
  cases up with
  | opened ht hr hd => exact ⟨fun _ => hr, fun _ => ⟨r.journal.lines, [], by simp [Line.span, Line.start], rfl⟩⟩
  | unclosed ht hd => exact of_not_tracking rfl
  | closed ht hd => exact of_not_tracking rfl
  | @noted url ht ha hd =>
    obtain ⟨past, apps, hl, _⟩ := co.span ht
    refine ⟨co.registered, fun _ => ⟨past, apps ++ [appName url], ?_, by simp⟩⟩
    simp [hl, Line.span_concat, Line.switch]
  | registered ha hd => exact ⟨fun _ => rfl, co.span⟩
  | _ => exact co

/-- A coherent recorder stays so when a call is applied. -/
lemma apply (co : Coherent r) (c : EngineCall) : Coherent (JournalEngine.apply r c).1 :=
  co.upshot (JournalEngine.apply_upshot r c)

/-- Where rows can be written, a start is granted to a registered device. -/
lemma start_granted (co : Coherent r) (hd : r.disk.events = true) : r.start.2 = r.registered := by
  have up := JournalEngine.start_upshot r .user
  generalize r.start.1 = r', r.start.2 = success at up
  cases up with
  | running ht => exact (co.registered ht).symm
  | unregistered _ hr => exact hr.symm
  | unopened _ _ hn => rw [hn] at hd; cases hd
  | opened _ hr _ => exact hr.symm

/-- A recorder that records shows the application of a switch, unless the row is refused. -/
lemma switch_shows (co : Coherent r) (ht : r.tracking = true) (hd : r.disk.events = true) (url : String) :
    (r.switch url).journal.Shows (appName url) := by
  obtain ⟨past, apps, hl, ha⟩ := co.span ht
  have up := JournalEngine.switch_upshot r url
  generalize r.switch url = r' at up
  cases up with
  | discarded hn => rw [hn] at ht; cases ht
  -- The application was noted last, and so it is the last one of the span.
  | repeated _ happ =>
    rw [happ] at ha
    obtain ⟨apps', rfl⟩ := List.getLast?_eq_some_iff.1 ha.symm
    exact ⟨past, apps', hl⟩
  | unnoted _ _ hn => rw [hn] at hd; cases hd
  | noted _ _ _ => exact ⟨past, apps, by simp [hl, Line.span_concat, Line.switch]⟩

end Coherent

end FocusJournal
