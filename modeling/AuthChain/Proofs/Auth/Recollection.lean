import AuthChain.Proofs.Auth.Keeping
import Mathlib.Data.List.DropRight
import Mathlib.Data.List.Forall2

/-!
# What a record remembers

A record is used by publishing notices to its sink and by clearing it. Main statement: after any
use it shows the latest outcomes since it was cleared last, oldest first, as many as it has room
for, and its counts are those of the outcomes that it shows (`Recording.shows_latest`).
-/

namespace AuthChain.Auth

variable {α σ : Type}

/-! ## Uses of a record -/

/-- What is done with a record. -/
inductive Recording.Use (α : Type) where
  | publish (notice : Notice α)
  | clear

namespace Recording.Use

/-- The notice that is published, if one is. -/
def notice? : Use α → Option (Notice α)
  | publish notice => some notice
  | clear => none

/-- Use the record in a cell of the state. -/
def run [Authentication α] (cell : Cell σ Recording) : Use α → Act Event σ Unit
  | publish notice => (Sink.recording cell).publish notice
  | clear => Act.modify (cell.modify Recording.clear)

/-- Use the record again and again. -/
def runAll [Authentication α] (cell : Cell σ Recording) : List (Use α) → Act Event σ Unit
  | [] => pure ()
  | use :: rest => do
    use.run cell
    runAll cell rest

/-- The notices since the record was cleared last, or all of them when it never was. -/
def sinceClear (uses : List (Use α)) : List (Notice α) :=
  (uses.rtakeWhile fun use => use.notice?.isSome).filterMap notice?

theorem sinceClear_concat_publish (uses : List (Use α)) (notice : Notice α) :
    sinceClear (uses ++ [.publish notice]) = sinceClear uses ++ [notice] := by
  unfold sinceClear
  rw [List.rtakeWhile_concat_pos _ _ _ rfl, List.filterMap_append]
  rfl

theorem sinceClear_concat_clear (uses : List (Use α)) :
    sinceClear (uses ++ [.clear]) = [] := by
  unfold sinceClear
  rw [List.rtakeWhile_concat_neg _ _ _ Bool.false_ne_true, List.filterMap_nil]

end Recording.Use

/-! ## What an entry shows -/

namespace Notice

/-- Whom the notice is about: the result of a success, the credential of a failure. -/
def subject : Notice α → α
  | success result => result
  | failure _ credential => credential

/-- The error of a failure. -/
def error? : Notice α → Option AuthError
  | success _ => none
  | failure error _ => some error

/-- How the resolution ended. -/
def ending : Notice α → Ending
  | success _ => .success
  | failure .. => .failure

end Notice

/-- The entry shows how the resolution ended and for whom, and for a failure the text and the label
of the error. -/
structure Entry.Shows [Authentication α] (entry : Entry) (notice : Notice α) : Prop where
  ending : entry.ending = notice.ending
  principal : entry.principal = Authentication.name notice.subject
  kind : entry.kind = Authentication.kind notice.subject
  error : entry.error = notice.error?.map AuthError.message
  category : entry.category = notice.error?.map AuthError.label

theorem Entry.ofNotice_shows [Authentication α] (notice : Notice α) :
    (Entry.ofNotice notice).Shows notice := by
  cases notice with
  | success result => exact ⟨rfl, rfl, rfl, rfl, rfl⟩
  | failure error credential => exact ⟨rfl, rfl, rfl, rfl, rfl⟩

/-! ## The record -/

namespace Recording

/-- A record with room keeps the last entries when one is added. -/
theorem record_eq {r : Recording} (hroom : 0 < r.capacity) {past : List Entry}
    (h : r.entries = past.rtake r.capacity) (e : Entry) :
    r.record e = ⟨r.capacity, (past ++ [e]).rtake r.capacity⟩ := by
  have hlength : r.entries.length = past.length - (past.length - r.capacity) := by
    rw [h, List.rtake, List.length_drop]
  unfold record
  split
  · -- the record is full, so one more of the past is dropped
    next hfull =>
    have hpast : (past ++ [e]).length - r.capacity = past.length - r.capacity + 1 := by
      rw [List.length_append, List.length_singleton]
      omega
    rw [List.rtake, hpast, List.drop_append_of_le_length (by omega), h, List.rtake,
      List.drop_drop]
  · -- there is room for one more, so nothing of the past was dropped yet
    next hfull =>
    have hall : past.length ≤ r.capacity - 1 := by omega
    have hpast : (past ++ [e]).length - r.capacity = 0 := by
      rw [List.length_append, List.length_singleton]
      omega
    rw [List.rtake, hpast, List.drop_zero, h, List.rtake, Nat.sub_eq_zero_of_le (by omega),
      List.drop_zero]

/-- The record holds the last entries for the notices, as many as its capacity. -/
structure Remembers [Authentication α] (r : Recording) (capacity : Nat)
    (notices : List (Notice α)) : Prop where
  room : r.capacity = max capacity 1
  entries : r.entries = (notices.map Entry.ofNotice).rtake (max capacity 1)

namespace Remembers

variable [Authentication α] {r : Recording} {capacity : Nat} {notices : List (Notice α)}

theorem empty (capacity : Nat) :
    Remembers (α := α) (.withCapacity capacity) capacity [] :=
  ⟨rfl, (List.rtake_nil _).symm⟩

theorem record (h : r.Remembers capacity notices) (notice : Notice α) :
    (r.record (.ofNotice notice)).Remembers capacity (notices ++ [notice]) := by
  have hroom : 0 < r.capacity := by
    rw [h.room]
    omega
  have hentries := h.entries
  rw [← h.room] at hentries
  rw [record_eq hroom hentries, h.room]
  exact ⟨rfl, by rw [List.map_append, List.map_singleton]⟩

theorem clear (h : r.Remembers capacity notices) :
    Remembers (α := α) r.clear capacity [] :=
  ⟨h.room, (List.rtake_nil _).symm⟩

/-- The counts of a record are those of the notices whose entries it holds. -/
theorem count (h : r.Remembers capacity notices) (ending : Ending) :
    r.count ending = (notices.rtake (max capacity 1)).countP (·.ending == ending) := by
  have hending : ∀ notice : Notice α, (Entry.ofNotice notice).ending = notice.ending :=
    fun notice => (Entry.ofNotice_shows notice).ending
  unfold Recording.count
  rw [h.entries, ← List.countP_eq_length_filter, List.rtake, List.length_map, ← List.map_drop,
    List.countP_map]
  apply List.countP_congr
  intro notice _
  simp [hending]

/-- Every use of a record is remembered. -/
theorem run {cell : Cell σ Recording} (hlawful : cell.Lawful) {uses : List (Use α)} {s : σ}
    (h : (cell.get s).Remembers capacity (Use.sinceClear uses)) (use : Use α) :
    (cell.get (use.run cell s).state).Remembers capacity (Use.sinceClear (uses ++ [use])) := by
  cases use with
  | publish notice =>
    rw [Use.sinceClear_concat_publish]
    have hcell : cell.get ((Use.publish notice).run cell s).state =
        (cell.get s).record (.ofNotice notice) := hlawful.get_set _ _
    rw [hcell]
    exact h.record notice
  | clear =>
    rw [Use.sinceClear_concat_clear]
    have hcell : cell.get ((Use.clear (α := α)).run cell s).state = (cell.get s).clear :=
      hlawful.get_set _ _
    rw [hcell]
    exact h.clear

theorem runAll {cell : Cell σ Recording} (hlawful : cell.Lawful) (uses : List (Use α)) :
    ∀ {earlier : List (Use α)} {s : σ},
      (cell.get s).Remembers capacity (Use.sinceClear earlier) →
      (cell.get (Use.runAll cell uses s).state).Remembers capacity
        (Use.sinceClear (earlier ++ uses)) := by
  -- the induction is on the uses left, after any earlier ones
  induction uses with
  | nil =>
    intro earlier s h
    rw [List.append_nil]
    exact h
  | cons use rest ih =>
    intro earlier s h
    have hrest := ih (h.run hlawful use)
    rw [List.append_assoc] at hrest
    exact hrest

end Remembers

variable [Authentication α]

/-- After any use, a record shows exactly the latest outcomes since it was cleared last, oldest
first, and counts them by how they ended. -/
theorem shows_latest (capacity : Nat) {cell : Cell σ Recording} (hlawful : cell.Lawful) {s : σ}
    (hempty : cell.get s = .withCapacity capacity) (uses : List (Use α)) :
    let r := cell.get (Use.runAll cell uses s).state
    let latest := (Use.sinceClear uses).rtake (max capacity 1)
    List.Forall₂ Entry.Shows r.entries latest ∧
      r.successes = latest.countP (·.ending == .success) ∧
      r.failures = latest.countP (·.ending == .failure) ∧
      r.successes + r.failures = r.entries.length := by
  intro r latest
  have hnone : (cell.get s).Remembers capacity (Use.sinceClear ([] : List (Use α))) := by
    rw [hempty]
    exact .empty capacity
  have hr : r.Remembers capacity (Use.sinceClear uses) := Remembers.runAll hlawful uses hnone
  have hentries : r.entries = latest.map Entry.ofNotice := by
    rw [hr.entries, List.rtake, List.length_map, ← List.map_drop]
    rfl
  have hboth : latest.countP (·.ending == .success) + latest.countP (·.ending == .failure) =
      latest.length := by
    rw [List.length_eq_countP_add_countP fun notice => notice.ending == .success]
    congr 1
    apply List.countP_congr
    intro notice _
    cases notice with
    | success result => simp [Notice.ending]
    | failure error credential => simp [Notice.ending]
  refine ⟨?_, hr.count .success, hr.count .failure, ?_⟩
  · rw [hentries, List.forall₂_map_left_iff, List.forall₂_same]
    intro notice _
    exact Entry.ofNotice_shows notice
  · rw [successes, failures, hr.count .success, hr.count .failure, hboth, hentries,
      List.length_map]

/-- A record with room for two keeps the last two of three outcomes after it was cleared. -/
theorem third_outcome_drops_first :
    let alice := AuthenticationToken.presented .usernamePassword "alice" "pw"
    let bob := AuthenticationToken.presented .bearerToken "bob" "key"
    let locked := AuthError.accountStatus .locked "too many attempts"
    let uses : List (Use AuthenticationToken) :=
      [.publish (.success bob), .clear, .publish (.success alice), .publish (.success bob),
        .publish (.failure locked alice)]
    let r := (Use.runAll .whole uses (.withCapacity 2)).state
    (Cell.whole : Cell Recording Recording).Lawful ∧
      List.Forall₂ Entry.Shows r.entries [.success bob, .failure locked alice] ∧
      r.successes = 1 ∧ r.failures = 1 ∧
      r.entries.map (·.error) = [none, some "Account is locked: too many attempts"] := by
  intro alice bob locked uses r
  obtain ⟨hshows, hsuccesses, hfailures, -⟩ :=
    shows_latest 2 Cell.whole_lawful (s := .withCapacity 2) rfl uses
  exact ⟨Cell.whole_lawful, hshows, hsuccesses, hfailures, rfl⟩

end Recording

end AuthChain.Auth
