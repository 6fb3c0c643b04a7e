import FocusJournal.Connection.Request
import FocusJournal.Message.Envelope
import FocusJournal.Proofs.Json.Values

/-!
# Notifications on the wire

Every notification is sent as one line and read back from it as what it was, if it makes sense, and otherwise refused
for what makes no sense in it: `Notification.parse_toJson`. A client that writes one in the form of `toJson` is never
told that the form is wrong, and its message is never taken for a control request.

A notification is written as its tag and the members of one of the records of its kind. Reading brings them into the
order of their keys, in which the tag comes first.
-/

namespace FocusJournal

open Json (depth plain tidy)
open Record (Member)

/-- Numbers of 64 bits with a sign can be written. -/
lemma Json.plain_ofInt64 (n : Int64) : plain (.ofInt64 n) = true := by
  have low : -9223372036854775808 ≤ n.toInt := Int64.le_toInt n
  have high : n.toInt ≤ 18446744073709551615 := by have := Int64.toInt_lt n; omega
  simp [plain, Json.ofInt64, low, high]

namespace TabView

/-- The fields of a tab, with what each puts into it. -/
def members (t : TabView) : List (Member TabView) := [
  ⟨"id", .ofInt64 t.id, fun u => { u with id := t.id }⟩,
  ⟨"url", .string t.url, fun u => { u with url := t.url }⟩,
  ⟨"active", .bool t.active, fun u => { u with active := t.active }⟩]

/-- The members of a tab give it back. -/
lemma gives_members (t : TabView) : record.Gives t.members t := by
  refine ⟨?holds, ?once, ?apart, rfl, rfl⟩
  case holds =>
    intro m hm
    simp only [members, List.mem_cons, List.not_mem_nil, or_false] at hm
    rcases hm with rfl | rfl | rfl
    · exact ⟨_, rfl, Field.ofJson_of (Format.means_int64 _)⟩
    · exact ⟨_, rfl, Field.ofJson_of (Format.means_string _)⟩
    · exact ⟨_, rfl, Field.ofJson_of (Format.means_bool _)⟩
  case once => exact show ["id", "url", "active"].Nodup by decide
  case apart => simp [members]

/-- A tab is taken for what was written of it. -/
lemma means_toJson (t : TabView) : record.format.Means t.toJson t := t.gives_members.means

/-- Tabs are written without floats. -/
lemma plain_toJson (t : TabView) : plain t.toJson = true := by
  simp [toJson, plain, Json.plainMembers, Json.plain_ofInt64]

end TabView

namespace WindowView

/-- The fields of a window, with what each puts into it. -/
def members (w : WindowView) : List (Member WindowView) := [
  ⟨"id", .ofInt64 w.id, fun v => { v with id := w.id }⟩,
  ⟨"focused", .bool w.focused, fun v => { v with focused := w.focused }⟩,
  ⟨"tabs", .array (w.tabs.map TabView.toJson), fun v => { v with tabs := w.tabs }⟩]

/-- The members of a window give it back, with its tabs. -/
lemma gives_members (w : WindowView) : record.Gives w.members w := by
  refine ⟨?holds, ?once, ?apart, rfl, rfl⟩
  case holds =>
    intro m hm
    simp only [members, List.mem_cons, List.not_mem_nil, or_false] at hm
    rcases hm with rfl | rfl | rfl
    · exact ⟨_, rfl, Field.ofJson_of (Format.means_int64 _)⟩
    · exact ⟨_, rfl, Field.ofJson_of (Format.means_bool _)⟩
    · exact ⟨_, rfl, Field.ofJson_of (Format.means_list TabView.means_toJson _)⟩
  case once => exact show ["id", "focused", "tabs"].Nodup by decide
  case apart => simp [members]

/-- A window is taken for what was written of it. -/
lemma means_toJson (w : WindowView) : record.format.Means w.toJson w := w.gives_members.means

/-- Windows are written without floats. -/
lemma plain_toJson (w : WindowView) : plain w.toJson = true := by
  have tabs : Json.plainItems (w.tabs.map TabView.toJson) = true :=
    Json.plainItems_of_forall (List.forall_mem_map.2 fun t _ => t.plain_toJson)
  simp [toJson, plain, Json.plainMembers, Json.plain_ofInt64, tabs]

/-- In a window there are its tabs, and nothing deeper. -/
lemma depth_toJson (w : WindowView) : depth w.toJson < 4 := by
  have tabs : Json.depthItems (w.tabs.map TabView.toJson) < 2 :=
    Json.depthItems_lt (by decide) (List.forall_mem_map.2 fun _ _ => Nat.lt_succ_self 1)
  simp only [toJson, depth, Json.depthMembers, Json.ofInt64]
  omega

end WindowView

namespace Notification

/-! ## Fields of a kind -/

/-- The fields of an update, of which the window may be missing. -/
def updateMembers (tab : TabId) (window : Option WindowId) (url : String) : List (Member Update) :=
  ⟨"tab_id", .ofInt64 tab, fun u => { u with tab := tab }⟩ ::
    ((window.toList.map fun window => ⟨"window_id", .ofInt64 window, fun u => { u with window := some window }⟩)
    ++ [⟨"url", .string url, fun u => { u with url := url }⟩])

/-- The fields of an activation. -/
def activationMembers (tab : TabId) (window : WindowId) : List (Member (TabId × WindowId)) := [
  ⟨"tab_id", .ofInt64 tab, fun a => (tab, a.2)⟩,
  ⟨"window_id", .ofInt64 window, fun a => (a.1, window)⟩]

/-- The field of a change of focus. -/
def focusMembers (window : WindowId) : List (Member WindowId) := [⟨"window_id", .ofInt64 window, fun _ => window⟩]

/-- The field of a snapshot. -/
def snapshotMembers (windows : List WindowView) : List (Member (List WindowView)) :=
  [⟨"windows", .array (windows.map WindowView.toJson), fun _ => windows⟩]

/-- The members of an update give back its tab, its window if it has one, and its URL. -/
lemma gives_updateMembers (tab : TabId) (window : Option WindowId) (url : String) :
    updateRecord.Gives (updateMembers tab window url) ⟨tab, window, url⟩ := by
  refine ⟨?holds, ?once, ?apart, ?complete, ?filled⟩
  case holds =>
    intro m hm
    simp only [updateMembers, List.mem_cons, List.mem_append, List.mem_map, Option.mem_toList, List.not_mem_nil,
      or_false] at hm
    rcases hm with rfl | ⟨window, _, rfl⟩ | rfl
    · exact ⟨_, rfl, Field.ofJson_of (Format.means_int64 _)⟩
    · exact ⟨_, rfl, Field.ofJson_of (Format.means_optional (Format.means_int64 _) (by simp [tidy, Json.ofInt64]))⟩
    · exact ⟨_, rfl, Field.ofJson_of (Format.means_string _)⟩
  case once => cases window <;> simp [updateMembers]
  case apart => cases window <;> simp [updateMembers]
  case complete => cases window <;> rfl
  case filled => cases window <;> rfl

/-- The members of an activation give back its tab and its window. -/
lemma gives_activationMembers (tab : TabId) (window : WindowId) :
    activationRecord.Gives (activationMembers tab window) (tab, window) := by
  refine ⟨?holds, ?once, ?apart, rfl, rfl⟩
  case holds =>
    intro m hm
    simp only [activationMembers, List.mem_cons, List.not_mem_nil, or_false] at hm
    rcases hm with rfl | rfl
    · exact ⟨_, rfl, Field.ofJson_of (Format.means_int64 _)⟩
    · exact ⟨_, rfl, Field.ofJson_of (Format.means_int64 _)⟩
  case once => exact show ["tab_id", "window_id"].Nodup by decide
  case apart => simp [activationMembers]

/-- The member of a change of focus gives back the window. -/
lemma gives_focusMembers (window : WindowId) : focusRecord.Gives (focusMembers window) window := by
  refine ⟨?holds, List.nodup_singleton _, ?apart, rfl, rfl⟩
  case holds =>
    intro m hm
    rw [List.mem_singleton.1 hm]
    exact ⟨_, rfl, Field.ofJson_of (Format.means_int64 _)⟩
  case apart => simp [focusMembers]

/-- The member of a snapshot gives back its windows. -/
lemma gives_snapshotMembers (windows : List WindowView) :
    snapshotRecord.Gives (snapshotMembers windows) windows := by
  refine ⟨?holds, List.nodup_singleton _, ?apart, rfl, rfl⟩
  case holds =>
    intro m hm
    rw [List.mem_singleton.1 hm]
    exact ⟨_, rfl, Field.ofJson_of (Format.means_list WindowView.means_toJson _)⟩
  case apart => simp [snapshotMembers]

/-! ## Reading -/

/-- Notifications are written without floats. -/
lemma plain_toJson (n : Notification) : plain n.toJson = true := by
  cases n with
  | tabUpdated tab window url => cases window <;> simp [toJson, plain, Json.plainMembers, Json.plain_ofInt64]
  | tabActivated tab window => simp [toJson, plain, Json.plainMembers, Json.plain_ofInt64]
  | windowFocusChanged window => simp [toJson, plain, Json.plainMembers, Json.plain_ofInt64]
  | snapshot windows =>
    have items : Json.plainItems (windows.map WindowView.toJson) = true :=
      Json.plainItems_of_forall (List.forall_mem_map.2 fun w _ => w.plain_toJson)
    simp [toJson, plain, Json.plainMembers, items]

/-- No notification is too deep for a message. -/
lemma depth_toJson (n : Notification) : depth n.toJson ≤ Json.depthLimit := by
  have deepest : depth n.toJson < 6 := by
    cases n with
    | tabUpdated tab window url => cases window <;> simp [toJson, depth, Json.depthMembers, Json.ofInt64]
    | tabActivated tab window => simp [toJson, depth, Json.depthMembers, Json.ofInt64]
    | windowFocusChanged window => simp [toJson, depth, Json.depthMembers, Json.ofInt64]
    | snapshot windows =>
      have items : Json.depthItems (windows.map WindowView.toJson) < 4 :=
        Json.depthItems_lt (by decide) (List.forall_mem_map.2 fun w _ => w.depth_toJson)
      simp only [toJson, depth, Json.depthMembers]
      omega
  exact Nat.le_trans (Nat.le_of_lt deepest) (by decide)

/-- A notification is written as the tag of its kind and the members of a record, and made of what the record gives. -/
structure Carries {α : Type} (n : Notification) (r : Record α) (members : List (Member α)) (a : α) : Prop where
  gives : r.Gives members a
  /-- The tag is the first of all keys. -/
  after : ∀ key ∈ members.map Member.key, tag < key
  written : n.toJson = .object ((tag, .string n.kind) :: members.map Member.written)
  known : kindOf (.string n.kind) = .ok n.kind
  made : ∀ read : {β : Type} → Record β → Except Mismatch β, read r = .ok a → ofKind n.kind read = .ok n

namespace Carries

variable {α : Type} {n : Notification} {r : Record α} {members : List (Member α)} {a : α}

/-- The members of a notification as they are read. -/
lemma exists_tidy (c : n.Carries r members a) :
    ∃ sorted : List (Member α), sorted.Perm members ∧ (∀ m ∈ sorted.map Member.tidied, tag < m.1) ∧
      tidy n.toJson = .object ((tag, .string n.kind) :: sorted.map Member.tidied) := by
  obtain ⟨sorted, perm, order⟩ := Member.exists_sorted c.gives.once
  have later : ∀ m ∈ sorted, tag < m.key := fun m hm => c.after _ (List.mem_map_of_mem (perm.mem_iff.1 hm))
  refine ⟨sorted, perm, List.forall_mem_map.2 later, ?_⟩
  rw [c.written, tidy, Json.tidyMembers, Member.tidyMembers_written, Json.ofMembers]
  refine congrArg Json.object (Json.canonical_of_perm ((perm.symm.map _).cons _) ?_)
  rw [List.map_cons, List.pairwise_cons, Member.keys_tidied]
  exact ⟨List.forall_mem_map.2 later, order⟩

/-- A notification is read as what it was. -/
lemma ofJson_tidy (c : n.Carries r members a) : ofJson (tidy n.toJson) = .ok n := by
  obtain ⟨sorted, perm, later, brought⟩ := c.exists_tidy
  have fields : (sorted.map Member.tidied).filter (fun m => m.1 != tag) = sorted.map Member.tidied :=
    List.filter_eq_self.2 fun m hm => by simpa using (String.ne_of_lt (later m hm)).symm
  rw [brought, ofJson, List.lookup_cons_self]
  simp only [c.known]
  refine c.made _ ?_
  rw [List.filter_cons_of_neg (by simp), fields]
  exact c.gives.ofMembers_tidied perm

/-- A notification is not taken for a control request. -/
lemma envelope_ofJson_tidy (c : n.Carries r members a) :
    Envelope.ofJson (tidy n.toJson) = n.check.map fun _ => .notification n := by
  have read : parse (tidy n.toJson) = n.check.map fun _ => n := by rw [parse, c.ofJson_tidy]
  obtain ⟨sorted, _, later, brought⟩ := c.exists_tidy
  -- The key of a control request stands before the tag, and the tag before all other keys.
  have uncontrolled : List.lookup "action" ((tag, .string n.kind) :: sorted.map Member.tidied) = none := by
    rw [List.lookup_eq_none_iff]
    have first : "action" < tag := by decide
    intro m hm
    rcases List.mem_cons.1 hm with rfl | hm
    · exact show ("action" != tag) = true by decide
    · simpa using String.ne_of_lt (String.lt_trans first (later m hm))
  rw [brought] at read ⊢
  simp only [Envelope.ofJson, uncontrolled, List.lookup_cons_self, read]
  cases n.check <;> rfl

end Carries

/-- Each notification is carried by the record of its kind. -/
lemma envelope_ofJson_tidy (n : Notification) :
    Envelope.ofJson (tidy n.toJson) = n.check.map fun _ => .notification n := by
  cases n with
  | tabUpdated tab window url =>
    refine Carries.envelope_ofJson_tidy ⟨gives_updateMembers tab window url, ?after, ?written, rfl, fun read h => ?made⟩
    case after =>
      cases window with
      | none => exact show ∀ key ∈ ["tab_id", "url"], tag < key by decide
      | some _ => exact show ∀ key ∈ ["tab_id", "window_id", "url"], tag < key by decide
    case written => cases window <;> rfl
    case made => simp [kind, ofKind, h, Except.map]
  | tabActivated tab window =>
    have after : ∀ key ∈ ["tab_id", "window_id"], tag < key := by decide
    refine Carries.envelope_ofJson_tidy ⟨gives_activationMembers tab window, after, rfl, rfl, fun read h => ?_⟩
    simp [kind, ofKind, h, Except.map]
  | windowFocusChanged window =>
    have after : ∀ key ∈ ["window_id"], tag < key := by decide
    refine Carries.envelope_ofJson_tidy ⟨gives_focusMembers window, after, rfl, rfl, fun read h => ?_⟩
    simp [kind, ofKind, h, Except.map]
  | snapshot windows =>
    have after : ∀ key ∈ ["windows"], tag < key := by decide
    refine Carries.envelope_ofJson_tidy ⟨gives_snapshotMembers windows, after, rfl, rfl, fun read h => ?_⟩
    simp [kind, ofKind, h, Except.map]

/-! ## Checking -/

/-- The refusals of a notification that is well formed and makes no sense. -/
inductive Senseless : Refusal → Prop where
  | blankUrl : Senseless (.blankField "url")
  | negativeTab : Senseless .negativeTab
  | negativeWindow : Senseless .negativeWindow
  | severalFocused : Senseless .severalFocused

namespace Senseless

/-- Of two checks in a row, the one that refuses does so for making no sense. -/
lemma of_bind {x : Except Refusal Unit} {f : Unit → Except Refusal Unit} (hx : ∀ r, x = .error r → Senseless r)
    (hf : ∀ r, f () = .error r → Senseless r) {r : Refusal} (h : x >>= f = .error r) : Senseless r := by
  cases x with
  | error _ =>
    cases h
    exact hx _ rfl
  | ok _ => exact hf r h

/-- Checking one after the other refuses what one of the checks refuses. -/
lemma of_forM {α : Type} {check : α → Except Refusal Unit} (h : ∀ x r, check x = .error r → Senseless r) (l : List α) :
    ∀ r, l.forM check = .error r → Senseless r := by
  induction l with
  | nil => nofun
  | cons x l ih => exact fun r hl => of_bind (h x) ih hl

/-- The id of a tab is only refused for being negative. -/
lemma of_checkTab (tab : TabId) (r : Refusal) (h : checkTab tab = .error r) : Senseless r := by
  rw [checkTab] at h
  split at h
  · cases h
    exact negativeTab
  · cases h

/-- The id of a window is only refused for being negative. -/
lemma of_checkWindow (window : WindowId) (r : Refusal) (h : checkWindow window = .error r) : Senseless r := by
  rw [checkWindow] at h
  split at h
  · cases h
    exact negativeWindow
  · cases h

/-- A window is only refused for its id or that of a tab in it. -/
lemma of_checkView (w : WindowView) (r : Refusal) (h : checkView w = .error r) : Senseless r := by
  have tabs := of_forM (fun (t : TabView) => of_checkTab t.id) w.tabs
  rw [checkView] at h
  exact of_bind (of_checkWindow w.id) tabs h

/-- A URL is only refused for being blank. -/
lemma of_blankUrl (url : String) (r : Refusal)
    (h : (if Text.isBlankString url then .error (.blankField "url") else .ok () : Except Refusal Unit) = .error r) :
    Senseless r := by
  split at h
  · cases h
    exact blankUrl
  · cases h

/-- A check only refuses what makes no sense. -/
lemma of_check (n : Notification) (r : Refusal) (h : n.check = .error r) : Senseless r := by
  cases n with
  | tabUpdated tab window url =>
    cases window with
    | none =>
      have unfolded : (tabUpdated tab none url).check = checkTab tab >>= fun _ =>
        if Text.isBlankString url then .error (.blankField "url") else .ok () := rfl
      rw [unfolded] at h
      exact of_bind (of_checkTab tab) (of_blankUrl url) h
    | some window =>
      have unfolded : (tabUpdated tab (some window) url).check = checkTab tab >>= fun _ => checkWindow window >>= fun _ =>
        if Text.isBlankString url then .error (.blankField "url") else .ok () := rfl
      rw [unfolded] at h
      exact of_bind (of_checkTab tab) (fun r h => of_bind (of_checkWindow window) (of_blankUrl url) h) h
  | tabActivated tab window => exact of_bind (of_checkTab tab) (of_checkWindow window) h
  | windowFocusChanged window => cases h
  | snapshot windows =>
    rw [check] at h
    split at h
    · cases h
      exact severalFocused
    · exact of_forM of_checkView windows r h

end Senseless

/-- A notification is written on one line and read back as what it was, unless its check refuses it, and then it is
refused for that. -/
theorem parse_toJson (n : Notification) :
    Request.lineEnd ∉ Text.encode n.toJson.chars ∧
      Envelope.parse (Text.encode n.toJson.chars) = (n.check.map fun _ => .notification n) ∧
      ∀ reason, Envelope.parse (Text.encode n.toJson.chars) = .error reason → Senseless reason := by
  have parsed : Envelope.parse (Text.encode n.toJson.chars) = n.check.map fun _ => .notification n := by
    rw [Envelope.parse, Json.ofBytes_chars n.plain_toJson n.depth_toJson]
    exact n.envelope_ofJson_tidy
  refine ⟨Json.newline_not_mem n.plain_toJson, parsed, fun reason h => ?_⟩
  rw [parsed] at h
  cases hc : n.check with
  | error r =>
    rw [hc] at h
    cases h
    exact Senseless.of_check n _ hc
  | ok u =>
    rw [hc] at h
    cases h

end Notification

end FocusJournal
