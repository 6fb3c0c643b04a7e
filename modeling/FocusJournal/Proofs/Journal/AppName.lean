import FocusJournal.Proofs.Url.Authority

/-!
# The port of an application

An application is named after the host that the parser finds and the port that is written in the authority. The parser
forgets a port that the scheme means anyway; such a port is looked for in the text of the URL once more, by a scan that
takes the text after the first `://` for the authority. The parser needs no such slashes, and it takes a backslash for
one, so the scan may look elsewhere.

* `writtenApp` is the name that is meant, `Misread` says that the scan finds another port than the written one.
* `appName_eq_writtenApp` has the name right exactly where the scan does not misread, and wherever the URL is written
  out with its scheme, two slashes and its authority.
-/

namespace FocusJournal

open Url (Authority Host)
open Url.Authority (splitPort splitUser)

/-- The name of a URL's application, with the port that is written in its authority. -/
def writtenApp (url : String) : String :=
  match Url.parse? url with
  | none => unknownApp
  | some u =>
    match u.authority.host with
    | none => unknownApp
    | some host => appOf host.text u.authority.port

/-- The parser has no port to tell of a URL with a host, and the scan finds another port than the one written. -/
def Misread (url : String) : Prop :=
  ∃ u host, Url.parse? url = some u ∧ u.authority.host = some host ∧ u.unusualPort? = none ∧
    scannedPort? url ≠ u.authority.port

/-- A URL consists of its scheme, two slashes, its authority and what may follow. There is an authority, without a slash
of either kind in it; only a host that begins with a bracket has colons of its own, and a file has none. -/
structure WrittenOut (url scheme place rest : List Char) : Prop where
  parts : url = scheme ++ ':' :: '/' :: '/' :: (place ++ rest)
  clean : Url.cleaned url = url
  trimmed : Text.trimChars url = url
  named : scheme.all Url.isSchemeChar = true
  placed : place ≠ []
  inside : place.all (fun c => !Url.endsAuthority true c) = true
  after : rest.head?.all (fun c => c = '/' || c = '?' || c = '#') = true
  bracketed : ':' ∈ (splitPort false (splitUser place).2).1 → (splitPort false (splitUser place).2).1.head? = some '['
  portless : scheme.map Text.asciiLower = "file".toList → ':' ∉ place

/-! ## Names -/

/-- Applications of one host are told apart by their ports. -/
lemma appOf_inj {host : List Char} {p q : Option Nat} : appOf host p = appOf host q ↔ p = q := by
  refine ⟨fun h => ?_, congrArg _⟩
  cases p with
  | none =>
    cases q with
    | none => rfl
    | some n => exact absurd (congrArg List.length (String.ofList_inj.1 h)) (by simp)
  | some m =>
    cases q with
    | none => exact absurd (congrArg List.length (String.ofList_inj.1 h)) (by simp)
    | some n =>
      have digits : Text.naturalDigits m = Text.naturalDigits n := by
        simpa only [appOf, String.ofList_inj, List.append_cancel_left_eq, List.cons.injEq, true_and] using h
      have value := congrArg (Nat.ofDigitChars 10 · 0) digits
      simp only [Text.naturalDigits, Nat.ofDigitChars_ten_toDigits] at value
      rw [value]

/-- The port that the parser tells of is the one written. -/
lemma Url.eq_port_of_unusualPort? {u : Url} {port : Nat} (h : u.unusualPort? = some port) :
    u.authority.port = some port := by
  rw [unusualPort?] at h
  split at h
  · cases h
  · exact h

/-- An application is misnamed just where the scan misreads its URL. -/
lemma appName_eq_iff (url : String) : appName url = writtenApp url ↔ ¬ Misread url := by
  rw [appName, writtenApp, Misread]
  cases parsed : Url.parse? url with
  | none => simp
  | some u =>
    dsimp only
    cases hosted : u.authority.host with
    | none => simp [hosted]
    | some host =>
      dsimp only
      rw [appOf_inj]
      cases told : u.unusualPort? with
      | none => simp [hosted, told]
      | some port => simp [told, Url.eq_port_of_unusualPort? told]

/-! ## URLs that are written out -/

/-- The scan goes on behind the first slashes after a scheme. -/
lemma afterSlashes?_append {scheme rest : List Char} (h : ':' ∉ scheme) :
    afterSlashes? (scheme ++ ':' :: '/' :: '/' :: rest) = some rest := by
  induction scheme with
  | nil => rfl
  | cons c scheme ih =>
    rw [List.mem_cons, not_or] at h
    rw [List.cons_append, afterSlashes?.eq_2 _ _ fun _ hc _ => h.1 hc.symm]
    exact ih h.2

/-- The place is what is read until the first character that does not belong there. -/
lemma takeWhile_place {p : Char → Bool} {place rest : List Char} (hp : ∀ c ∈ place, p c = true)
    (hr : ∀ c ∈ rest.head?, p c = false) : (place ++ rest).takeWhile p = place := by
  rw [List.takeWhile_append_of_pos hp]
  cases rest with
  | nil => simp
  | cons c rest => rw [List.takeWhile_cons_of_neg (by simp [hr c rfl]), List.append_nil]

/-- The only scheme of files is their own. -/
lemma Url.eq_file_of_kind {scheme : List Char} (h : Url.kind scheme = .file) : scheme = "file".toList := by
  rw [kind] at h
  split at h
  case h_6 eq => rw [← eq, String.toList_ofList]
  all_goals cases h

/-- Files have no ports. -/
lemma Url.port_of_fileAuthority? {cs : List Char} {authority : Authority} (h : Url.fileAuthority? cs = some authority) :
    authority.port = none := by
  simp only [fileAuthority?] at h
  repeat' split at h
  all_goals cases h <;> rfl

namespace WrittenOut

variable {url scheme place rest : List Char} (w : WrittenOut url scheme place rest)

include w

/-- Reading stops behind the authority where it stops at a slash, a question mark and a number sign. -/
lemma takeWhile_eq {p : Char → Bool} (some : ∀ c, Url.endsAuthority true c = false → p c = true)
    (none : p '/' = false ∧ p '?' = false ∧ p '#' = false) : (place ++ rest).takeWhile p = place := by
  refine takeWhile_place (fun c hc => some c ?_) fun c hc => ?_
  · simpa using List.all_eq_true.1 w.inside c hc
  · have ends := w.after
    rw [Option.mem_def.1 hc] at ends
    simp only [Option.all_some, Bool.or_eq_true, decide_eq_true_eq] at ends
    rcases ends with (rfl | rfl) | rfl
    exacts [none.1, none.2.1, none.2.2]

/-- The parser splits a URL that is written out behind its scheme, if the scheme begins with a letter. -/
lemma splitScheme?_eq :
    Url.splitScheme? url =
      if scheme.head?.any Url.isLetter then some (scheme.map Text.asciiLower, '/' :: '/' :: (place ++ rest)) else none := by
  have named := List.all_eq_true.1 w.named
  rw [Url.splitScheme?, w.parts, List.dropWhile_append_of_pos named, List.takeWhile_append_of_pos named,
    List.dropWhile_cons_of_neg (by decide), List.takeWhile_cons_of_neg (by decide), List.append_nil]
  rfl

/-- The scan looks for the port in the authority, behind the user. -/
lemma scannedPort?_eq : scannedPort? (String.ofList url) = lastPort? (splitUser place).2 := by
  have unnamed : ':' ∉ scheme := fun inside =>
    absurd (List.all_eq_true.1 w.named _ inside) (by decide)
  have found : afterSlashes? url = some (place ++ rest) := by rw [w.parts, afterSlashes?_append unnamed]
  rw [FocusJournal.scannedPort?_eq, String.toList_ofList, w.trimmed, found, Option.bind_some,
    w.takeWhile_eq (fun c hc => ?_) (by decide)]
  simp only [Url.endsAuthority, Bool.or_eq_false_iff, decide_eq_false_iff_not] at hc
  simp only [decide_eq_true_eq]
  exact ⟨hc.1.1.1, hc.1.1.2, hc.1.2⟩

/-- No slash is skipped at the beginning of the authority. -/
lemma dropWhile_eq : ('/' :: '/' :: (place ++ rest)).dropWhile Url.isSlash = place ++ rest := by
  obtain ⟨c, place', rfl⟩ := List.exists_cons_of_ne_nil w.placed
  have first := List.all_eq_true.1 w.inside c List.mem_cons_self
  simp only [Url.endsAuthority, Bool.not_eq_true', Bool.or_eq_false_iff, Bool.true_and] at first
  rw [List.dropWhile_cons_of_pos (by decide), List.dropWhile_cons_of_pos (by decide), List.cons_append,
    List.dropWhile_cons_of_neg]
  rw [Url.isSlash, first.1.1.1, first.2]
  decide

/-- The authority is read from its place, or it is that of a file, without a port. -/
lemma authority?_cases {authority : Authority}
    (read : Url.authority? (scheme.map Text.asciiLower) ('/' :: '/' :: (place ++ rest)) = some authority) :
    (∃ inNetwork, Authority.ofText? inNetwork place = some authority) ∨ (':' ∉ place ∧ authority.port = none) := by
  rw [Url.authority?] at read
  cases kind : Url.kind (scheme.map Text.asciiLower) with
  | network port =>
    rw [kind] at read
    change Url.authorityAt? true (List.dropWhile Url.isSlash _) = _ at read
    rw [w.dropWhile_eq, Url.authorityAt?, w.takeWhile_eq (fun c hc => by simp [hc]) (by decide)] at read
    exact .inl ⟨true, read⟩
  | file =>
    rw [kind] at read
    exact .inr ⟨w.portless (Url.eq_file_of_kind kind), Url.port_of_fileAuthority? read⟩
  | other =>
    rw [kind] at read
    change Url.authorityAt? false (place ++ rest) = _ at read
    rw [Url.authorityAt?, w.takeWhile_eq (fun c hc => ?_) (by decide)] at read
    · exact .inl ⟨false, read⟩
    · rw [Url.endsAuthority, Bool.or_eq_false_iff] at hc
      simpa [Url.endsAuthority] using hc.1

/-- The scan misreads no URL that is written out. -/
lemma not_misread : ¬ Misread (String.ofList url) := by
  rintro ⟨u, host, parsed, hosted, -, differs⟩
  refine differs (w.scannedPort?_eq.trans ?_)
  obtain ⟨⟨scheme', rest'⟩, split, read⟩ := Option.bind_eq_some_iff.1 parsed
  rw [String.toList_ofList, w.clean, w.splitScheme?_eq] at split
  obtain ⟨authority, found, rfl⟩ := Option.map_eq_some_iff.1 read
  obtain ⟨-, rfl, rfl⟩ : _ ∧ _ = scheme' ∧ _ = rest' := by simpa using split
  -- The scan and the parser read the same place, unless that is a file's, where neither finds a port.
  rcases w.authority?_cases found with ⟨inNetwork, placed⟩ | ⟨plain, left⟩
  · obtain ⟨host', port⟩ := authority
    obtain rfl : host' = some host := hosted
    exact Authority.lastPort?_of_ofText? placed w.bracketed fun inside =>
      absurd (List.all_eq_true.1 w.inside _ inside) (by decide)
  · exact (lastPort?_of_not_mem fun inside => plain (Authority.splitUser_snd_subset place inside)).trans left.symm

end WrittenOut

/-! ## What the name says -/

/-- The name of an application has the written port exactly where the scan does not misread, and the scan misreads no
URL that is written out. -/
theorem appName_eq_writtenApp (url : String) :
    (appName url = writtenApp url ↔ ¬ Misread url) ∧
      ∀ scheme place rest, WrittenOut url.toList scheme place rest → appName url = writtenApp url := by
  refine ⟨appName_eq_iff url, fun scheme place rest w => (appName_eq_iff url).2 ?_⟩
  rw [← String.ofList_toList (s := url)]
  exact w.not_misread

/-- A default port is part of the name of an application, as any port that is written. -/
theorem appName_eq_writtenApp_default :
    WrittenOut "http://user:pw@example.com:80/x".toList "http".toList "user:pw@example.com:80".toList "/x".toList ∧
      appName "http://user:pw@example.com:80/x" = writtenApp "http://user:pw@example.com:80/x" := by
  have w : WrittenOut "http://user:pw@example.com:80/x".toList "http".toList "user:pw@example.com:80".toList
      "/x".toList := by
    constructor <;> decide +kernel
  exact ⟨w, (appName_eq_writtenApp _).2 _ _ _ w⟩

/-- With one slash after its scheme, a URL is named after a port in its query. -/
theorem not_always_writtenApp : ¬ ∀ url, appName url = writtenApp url := fun h =>
  absurd (h "http:/a.example/?next=http://b.example:8080/") (by decide +kernel)

end FocusJournal
