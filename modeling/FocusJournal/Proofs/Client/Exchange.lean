import FocusJournal.Daemon.Basic
import FocusJournal.Proofs.Client.Reply
import FocusJournal.Proofs.Connection.Ending
import FocusJournal.Proofs.Connection.Reads
import FocusJournal.Proofs.Station.Login

/-!
# Exchanges

How a message of the client is exchanged for an answer of a reporter that others use at the same time. The bytes of the
message come in reads of any size; what they come to is posted, reporter and engine run on, with whatever else is posted
and happens, until the answers to the message are relayed, and the client reads what was written. Every connection of
the daemon is such an exchange: `Daemon.exists_exchange`.
-/

open scoped List

namespace FocusJournal

/-- A message that is sent to a station, and how it went. -/
structure Exchange (s : Station JournalEngine) (message : Json) where
  reads : List (List UInt8)
  ending : Request.Ending
  whole : reads.flatten = Dialogue.lineOf message
  /-- The number under which the answers to the message come back. -/
  asker : Asker
  /-- What happens until the last answer is written. -/
  events : Station.Trace
  after : Station JournalEngine
  /-- Why no more answers came. -/
  silence : Silence
  run : Station.Run (((Errand.ofReceived (Request.receive ending reads)).posted asker).foldl Station.post s) events after

namespace Exchange

variable {s : Station JournalEngine} {message : Json} (x : Exchange s message)

/-- The errand that the request comes to. -/
def errand : Errand := .ofReceived (Request.receive x.ending x.reads)

/-- What is posted and written for the message. -/
def visit : Visit := x.errand.visit x.asker (x.events.responses x.asker) x.silence

/-- What the client reads. -/
def reply : Except Failure Response := Reply.read (some (x.visit.written.flatMap Response.line))

/-- Nobody else logs in meanwhile, and nobody else is given the answers. -/
def Alone : Prop :=
  (x.events.inputs.filter fun i => i.isLogin || i.asker? = some x.asker) <+ x.visit.posted

/-- If the reporter was asked something, its final answer came in time. -/
def Answered : Prop :=
  ∀ control id, x.errand = .ask control id → (Reply.final? (x.events.responses x.asker)).isSome = true

end Exchange

/-- A dialogue of one exchange ends with what the answer comes to. -/
lemma Dialogue.hold_exchange {α σ : Type} (answer : σ → List UInt8 → σ × Option (List UInt8)) (s : σ) (message : Json)
    (result : Except Failure Response → α) :
    (exchange message fun reply => .done (result reply)).hold answer s =
      ((answer s (lineOf message)).1, [message], result (Reply.read (answer s (lineOf message)).2)) := rfl

namespace Service

/-- A running service carries out an errand by a run of its station, at the end of which nothing is left to do. -/
lemma exists_run {s : Service} {station : Station JournalEngine} (running : s.status = .running station)
    (alive : station.engine.alive = true) (errand : Errand) :
    ∃ t station', Station.Run ((errand.posted s.nextAsker).foldl Station.post station) t station' ∧
      (s.run false errand).1.status = .running station' ∧
      (s.run false errand).2 = errand.written (t.responses s.nextAsker) .waiting ∧
      Station.outer t.inputs <+ Station.outer (station.inbox ++ errand.posted s.nextAsker) ∧
      (errand.posted s.nextAsker = [] ∨ station'.isQuiescent = true) := by
  cases errand with
  | refuse response => exact ⟨[], station, .refl, running, rfl, List.nil_sublist _, .inl rfl⟩
  | ignore => exact ⟨[], station, .refl, running, rfl, List.nil_sublist _, .inl rfl⟩
  | notify n =>
    obtain ⟨t, run, _, outside, quiet⟩ := Station.settle_run (s := station.post (.notification n)) alive
    refine ⟨t, _, run, ?_, ?_, by rw [outside]; exact .refl _, .inr quiet⟩
    · simp [Service.run, notify, feed, running]
    · simp [Service.run, notify, running, Errand.written]
  | ask control id =>
    obtain ⟨t, run, replies, outside, quiet⟩ :=
      Station.settle_run (s := station.post (.control control id s.nextAsker)) alive
    refine ⟨t, _, run, ?_, ?_, by rw [outside]; exact .refl _, .inr quiet⟩
    · simp [Service.run, ask, feed, running]
    · have told : t.responses s.nextAsker =
          ((station.post (.control control id s.nextAsker)).settle.2.answers.filter
            fun a => a.asker = s.nextAsker).map Answer.response := by
        rw [Station.Trace.responses, replies, ← List.filterMap_eq_map, List.filterMap_filter]
        congr
        funext a
        by_cases h : a.asker = s.nextAsker <;> simp [Answer.for?, h]
      simp [Service.run, ask, feed, running, Errand.written, told]

end Service

/-- A connection to the daemon is an exchange, at the end of which nothing is left to do if anything was posted. -/
theorem Daemon.exists_exchange {d : Daemon} {s : Station JournalEngine} (running : d.service.status = .running s)
    (alive : s.engine.alive = true) (message : Json) :
    ∃ x : Exchange s message,
      (d.reply (Dialogue.lineOf message)).1.service.status = .running x.after ∧
      Reply.read (d.reply (Dialogue.lineOf message)).2 = x.reply ∧
      Station.outer x.events.inputs <+ Station.outer (s.inbox ++ x.visit.posted) ∧
      (x.visit.posted = [] ∨ x.after.isQuiescent = true) := by
  let bytes := Dialogue.lineOf message
  obtain ⟨t, station, run, after, written, outside, quiet⟩ :=
    d.service.exists_run running alive (.ofReceived (Request.receive .closed (Request.readsOf bytes)))
  let x : Exchange s message :=
    ⟨Request.readsOf bytes, .closed, Request.readsOf_flatten bytes, d.service.nextAsker, t, station, .waiting, run⟩
  have lines : (d.reply bytes).2 = some ((d.service.run false x.errand).2.flatMap Response.line) := rfl
  refine ⟨x, after, ?_, outside, quiet⟩
  rw [lines, Exchange.errand, written]
  rfl

end FocusJournal
