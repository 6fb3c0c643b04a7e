import FocusJournal.Client.Reply
import FocusJournal.Connection.Errand
import FocusJournal.Proofs.Message.Response

/-!
# Reading a reply

The one who relays answers and the one who reads the reply are two loops, and they agree on which line is the last:
`Reply.read_transcript`. The relay writes each answer as a line and ends with the first final one, or with a complaint
where none comes; the reader takes the lines apart again, passes over the pending ones and gives back the final one.

That the lines come apart where they were put together is because no line end is written inside a response
(`lineEnd_not_mem`), and that each is read as what it was because responses survive the wire (`Response.ofBytes_text`).
-/

namespace FocusJournal

open Json (spell plain)

namespace Response

/-- The bytes of the line with a response. -/
def line (r : Response) : List UInt8 := Text.bytesOf r.text ++ [Request.lineEnd]

/-- A response that can be sent: its data can be written and read back, and its line is short enough. -/
structure Portable (r : Response) : Prop where
  carries : ∀ j ∈ r.data, Carries j
  short : r.line.length ≤ Request.maxBytes

/-- The text of a response is what its value spells. -/
lemma bytesOf_text (r : Response) : Text.bytesOf r.text = Text.encode r.toJson.chars := by
  rw [text, Json.text, Text.bytesOf, String.toList_ofList]

/-- The line of a response is what its value spells, with an end. -/
lemma line_eq (r : Response) : r.line = Text.encode (spell r.toJson ++ ['\n']) := by
  rw [line, bytesOf_text, Json.chars_eq, Text.encode_append]
  rfl

/-- No line ends inside a response. -/
lemma lineEnd_not_mem {r : Response} (h : ∀ j ∈ r.data, Carries j) : Request.lineEnd ∉ Text.bytesOf r.text := by
  rw [bytesOf_text]
  exact Json.newline_not_mem (plain_toJson h)

/-- A refusal can be sent, since it has no value in it. -/
lemma portable_refused {id : Option String} {reason : Refusal} (h : (refused id reason).line.length ≤ Request.maxBytes) :
    (refused id reason).Portable := ⟨fun _ hj => (Option.not_mem_none _ hj).elim, h⟩

end Response

namespace Reply

/-! ## Lines -/

/-- A line without an end inside is split off as it was written. -/
lemma linesFrom_line {body : List UInt8} (h : Request.lineEnd ∉ body) (line rest : List UInt8) :
    linesFrom line (body ++ Request.lineEnd :: rest) = (line.reverse ++ body ++ [Request.lineEnd]) :: linesFrom [] rest := by
  induction body generalizing line with
  | nil => simp [linesFrom]
  | cons b body ih =>
    rw [List.mem_cons, not_or] at h
    rw [List.cons_append, linesFrom, if_neg (Ne.symm h.1), ih h.2]
    simp

/-- Responses that were written line by line come apart again. -/
lemma linesFrom_lines {rs : List Response} (h : ∀ r ∈ rs, r.Portable) (rest : List UInt8) :
    linesFrom [] (rs.flatMap Response.line ++ rest) = rs.map Response.line ++ linesFrom [] rest := by
  induction rs with
  | nil => rfl
  | cons r rs ih =>
    have apart := linesFrom_line (Response.lineEnd_not_mem (h r (.head _)).carries) []
      (rs.flatMap Response.line ++ rest)
    rw [List.flatMap_cons, List.append_assoc, Response.line, List.append_assoc, List.singleton_append, apart,
      ih fun r hr => h r (.tail _ hr)]
    rfl

/-- Nothing is trimmed of a value but the end of its line. -/
lemma trimChars_line {c d : Char} (hc : Text.isBlank c = false) (hd : Text.isBlank d = false) (cs : List Char) :
    Text.trimChars ((c :: (cs ++ [d])) ++ ['\n']) = c :: (cs ++ [d]) := by
  have newline : Text.isBlank '\n' = true := by decide
  simp [Text.trimChars, hc, hd, newline]

/-- The line of a response is read as the response. -/
lemma await_line {r : Response} (h : r.Portable) (rest : List (List UInt8)) :
    await (r.line :: rest) = if r.pending then await rest else conclude r := by
  have shape : ∃ cs, spell r.toJson = '\x7b' :: (cs ++ ['\x7d']) := ⟨_, rfl⟩
  obtain ⟨cs, shape⟩ := shape
  have trimmed := trimChars_line (c := '\x7b') (d := '\x7d') (by decide) (by decide) cs
  have read := Response.ofBytes_text h.carries
  rw [Response.bytesOf_text, Json.chars_eq, shape] at read
  have text : Text.text? r.line = some (('\x7b' :: (cs ++ ['\x7d'])) ++ ['\n']) := by
    rw [Response.line_eq, Text.text?_encode, shape]
  have shown : (('\x7b' :: (cs ++ ['\x7d'])) ++ ['\n']).all Text.isBlank = false := by
    rw [List.cons_append, List.all_cons]
    rfl
  simp only [await, text, if_neg (Nat.not_lt.2 h.short), shown, trimmed, read, Bool.false_eq_true, if_false]

/-! ## What a relayed reply is read as -/

/-- The bytes that are relayed for the answers to a request. -/
def transcript (id : Option String) (silence : Silence) (answers : List Response) : List UInt8 :=
  (relay id silence answers).1.flatMap Response.line

/-- The first answer that is not pending. -/
def final? (answers : List Response) : Option Response := answers.find? fun r => !r.pending

/-- What is read of a relayed reply is what its final answer comes to, whatever bytes come after. -/
lemma await_relay (id : Option String) (silence : Silence) (answers : List Response)
    (h : ∀ r ∈ (relay id silence answers).1, r.Portable) (rest : List (List UInt8)) :
    await ((relay id silence answers).1.map Response.line ++ rest) =
      match final? answers with
      | some r => conclude r
      | none => .error (.rejected silence.refusal.complaint) := by
  induction answers with
  | nil => exact await_line (h _ (.head _)) rest
  | cons answer answers ih =>
    rw [relay] at h ⊢
    cases hp : answer.pending with
    | true =>
      simp only [hp, if_true] at h ⊢
      rw [List.map_cons, List.cons_append, await_line (h _ (.head _)), if_pos hp, ih fun r hr => h r (.tail _ hr)]
      simp [final?, hp]
    | false =>
      simp only [hp, Bool.false_eq_true, if_false] at h ⊢
      rw [List.map_cons, List.cons_append, await_line (h _ (.head _)), hp]
      simp [final?, hp]

/-- Whatever comes after the final answer of a transcript is not read. -/
lemma read_transcript_append {id : Option String} {silence : Silence} {answers : List Response}
    (h : ∀ r ∈ (relay id silence answers).1, r.Portable) (more : List UInt8) :
    read (some (transcript id silence answers ++ more)) =
      match final? answers with
      | some r => conclude r
      | none => .error (.rejected silence.refusal.complaint) := by
  rw [read, transcript, linesFrom_lines h, await_relay id silence answers h]

/-- Nothing is relayed after a final answer. -/
lemma relay_append {id : Option String} {silence : Silence} {answers : List Response}
    (h : (final? answers).isSome = true) (later : List Response) (silence' : Silence) :
    (relay id silence' (answers ++ later)).1 = (relay id silence answers).1 := by
  induction answers with
  | nil => cases h
  | cons answer answers ih =>
    rw [List.cons_append, relay, relay]
    cases hp : answer.pending with
    | true => simp [ih (by simpa [final?, hp] using h)]
    | false => rfl

/-- A reply is read as the answers that were relayed and the silence after them have it. -/
structure ReadsBack (id : Option String) (silence : Silence) (answers : List Response)
    (result : Except Failure Response) : Prop where
  /-- A final answer that is good is given back field by field. -/
  good : ∀ r, final? answers = some r → r.ok = true → result = .ok r
  /-- A final answer that refuses is a rejection for its reason. -/
  refused : ∀ r c, final? answers = some r → r.ok = false → r.error = some c → result = .error (.rejected c)
  unreasoned : ∀ r, final? answers = some r → r.ok = false → r.error = none → result = .error (.rejected unexplained)
  late : final? answers = none → silence = .waiting →
    result = .error (.rejected ⟨"reply_timeout", "reporter did not answer in time"⟩)
  dropped : final? answers = none → silence = .gone →
    result = .error (.rejected ⟨"unavailable", "reporter dropped the request"⟩)
  notPending : ∀ r, result = .ok r → r.pending = false
  /-- The reply is never found to be empty, cut short, too long or no response. -/
  rejected : ∀ failure, result = .error failure → ∃ c, failure = .rejected c
  /-- Answers that come after a final one have no effect, and no more has what follows the reply. -/
  settled : (final? answers).isSome = true → ∀ later silence' more,
    read (some (transcript id silence' (answers ++ later) ++ more)) = result

/-- What a client reads of a reply is the final answer to its request. -/
theorem read_transcript (id : Option String) (silence : Silence) (answers : List Response)
    (portable : ∀ r ∈ (relay id silence answers).1, r.Portable) :
    ReadsBack id silence answers (read (some (transcript id silence answers))) := by
  have outcome (more : List UInt8) := read_transcript_append portable more
  have here := outcome []
  rw [List.append_nil] at here
  have final (r : Response) (hr : final? answers = some r) : r.pending = false := by
    simpa using List.find?_some hr
  refine ⟨?good, ?refused, ?unreasoned, ?late, ?dropped, ?notPending, ?rejected, ?settled⟩
  case good =>
    intro r hr ok
    rw [here, hr]
    exact if_pos ok
  case refused =>
    intro r c hr ok hc
    simp [here, hr, conclude, ok, hc]
  case unreasoned =>
    intro r hr ok hc
    simp [here, hr, conclude, ok, hc]
  case late =>
    rintro hr rfl
    rw [here, hr]
    rfl
  case dropped =>
    rintro hr rfl
    rw [here, hr]
    rfl
  case notPending =>
    intro r hread
    rw [here] at hread
    cases hr : final? answers with
    | none => rw [hr] at hread; cases hread
    | some s =>
      simp only [hr, conclude] at hread
      split at hread
      · rw [← Except.ok.inj hread]
        exact final s hr
      · cases hread
  case rejected =>
    intro failure hread
    rw [here] at hread
    cases hr : final? answers with
    | none =>
      rw [hr] at hread
      exact ⟨_, (Except.error.inj hread).symm⟩
    | some s =>
      simp only [hr, conclude] at hread
      split at hread
      · cases hread
      · exact ⟨_, (Except.error.inj hread).symm⟩
  case settled =>
    intro hfinal later silence' more
    rw [here, ← outcome more, transcript, transcript, relay_append hfinal]

/-- A value with an end of line in its text, after a pending line and before an answer that is left over. -/
theorem read_transcript_deferred :
    let value : Response := .value (some "7") (.object [("lines", .string "one\ntwo"), ("rows", .array [.integer (-3)])])
    let answers := [.later (some "7"), value, .ack none]
    (∀ r ∈ (relay (some "7") .gone answers).1, r.Portable) ∧
      read (some (transcript (some "7") .gone answers)) = .ok value := by
  intro value answers
  have portable : ∀ r ∈ (relay (some "7") .gone answers).1, r.Portable := by
    intro r hr
    have written : r = .later (some "7") ∨ r = value := by simpa [answers, value, relay, Response.later, Response.value] using hr
    rcases written with rfl | rfl
    · refine ⟨fun j hj => (Option.not_mem_none _ hj).elim, ?_⟩
      rw [Response.line_eq]
      decide +kernel
    · refine ⟨fun j hj => ?_, ?_⟩
      · cases hj
        exact ⟨by simp, by decide, by decide, by decide⟩
      · rw [Response.line_eq]
        decide +kernel
  exact ⟨portable, (read_transcript _ _ _ portable).good value rfl rfl⟩

end Reply

end FocusJournal
