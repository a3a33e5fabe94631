/-
Merging cursor state into the aggregate. A merge writes one entry or nothing;
what was stored under any other name stays, and no entry is ever lost.
-/
import SourceSync.Proofs.Table
import SourceSync.State

namespace SourceSync

namespace Json

namespace Value

mutual

theorem same_refl : ∀ v : Value, same v v = true
  | .null => rfl
  | .bool b => by simp [same]
  | .number n => by cases n <;> simp [same, Number.same, Decimal.Binary64.same]
  | .string s => by simp [same]
  | .array items => by rw [same]; exact sameItems_refl items
  | .object members => by rw [same]; exact sameMembers_refl members

theorem sameItems_refl : ∀ items : List Value, sameItems items items = true
  | [] => by simp [sameItems]
  | v :: rest => by rw [sameItems, same_refl v, sameItems_refl rest]; rfl

theorem sameMembers_refl : ∀ members : List (String × Value), sameMembers members members = true
  | [] => by simp [sameMembers]
  | (k, v) :: rest => by
      rw [sameMembers, same_refl v, sameMembers_refl rest]
      simp

end

end Value

end Json

open Json

namespace SyncState

/-- The state with an entry for a stream, whatever was stored for it. -/
def put (s : SyncState) (stream : String) (cursor : Object) : SyncState :=
  ⟨s.streams.put stream cursor⟩

theorem get?_put (s : SyncState) (stream other : String) (cursor : Object) :
    (s.put stream cursor).get? other = if stream = other then some cursor else s.get? other :=
  s.streams.get?_put stream other cursor

theorem put_put (s : SyncState) (stream : String) (first second : Object) :
    (s.put stream first).put stream second = s.put stream second := by
  simp only [put, SortedTable.put_put]

/-- The state `after` is `before` with the entry of a stream replaced by a cursor state.
The entry is the cursor state as a value; one that had this value before may stay. -/
def Replaces (before : SyncState) (stream : String) (cursor : Object) (after : SyncState) : Prop :=
  ∃ entry, Object.same entry cursor = true ∧
    (after = before.put stream entry ∨ after = before ∧ before.get? stream = some entry)

/-- A merge writes the entry, unless there is nothing to write or the same value is stored. -/
theorem merge_cases (s : SyncState) (stream : String) (cursor : Object) :
    (cursor ≠ [] ∧ s.merge stream cursor = s.put stream cursor) ∨
      (s.merge stream cursor = s ∧
        (cursor = [] ∨ ∃ stored, s.get? stream = some stored ∧
          Object.same stored cursor = true)) := by
  cases hchanges : s.changes stream cursor with
  | true =>
      refine Or.inl ⟨?_, by rw [merge, hchanges]; rfl⟩
      rintro rfl
      simp [changes] at hchanges
  | false =>
      refine Or.inr ⟨by rw [merge, hchanges]; rfl, ?_⟩
      cases cursor with
      | nil => exact Or.inl rfl
      | cons member members =>
          cases hget : s.get? stream with
          | none => simp [changes, hget] at hchanges
          | some stored => exact Or.inr ⟨stored, rfl, by simpa [changes, hget] using hchanges⟩

@[simp] theorem merge_nil (s : SyncState) (stream : String) : s.merge stream [] = s := by
  simp [merge, changes]

/-- A merge never loses an entry. -/
theorem isSome_get?_merge (s : SyncState) (stream : String) (cursor : Object) {name : String}
    (hstored : (s.get? name).isSome) : ((s.merge stream cursor).get? name).isSome := by
  rcases s.merge_cases stream cursor with ⟨_, hput⟩ | ⟨hsame, _⟩
  · rw [hput, get?_put]
    split
    · rfl
    · exact hstored
  · rwa [hsame]

/-- The state `after` differs from `before` at most in an entry for one stream. -/
def Touches (before : SyncState) (stream : String) (after : SyncState) : Prop :=
  after = before ∨ ∃ entry, after = before.put stream entry

theorem Touches.merge {before after : SyncState} {stream : String}
    (htouches : before.Touches stream after) (cursor : Object) :
    before.Touches stream (after.merge stream cursor) := by
  rcases after.merge_cases stream cursor with ⟨_, hput⟩ | ⟨hsame, _⟩
  · refine Or.inr ⟨cursor, ?_⟩
    rcases htouches with rfl | ⟨entry, rfl⟩
    · exact hput
    · rw [hput, put_put]
  · rwa [hsame]

/-- Whatever one stream has published, publishing again replaces its entry. -/
theorem Touches.merge_replaces {before after : SyncState} {stream : String} {cursor : Object}
    (htouches : before.Touches stream after) (hcursor : cursor ≠ []) :
    before.Replaces stream cursor (after.merge stream cursor) := by
  rcases after.merge_cases stream cursor with ⟨_, hput⟩ | ⟨hkept, hempty | ⟨stored, hget, hsame⟩⟩
  · refine ⟨cursor, Value.sameMembers_refl cursor, Or.inl ?_⟩
    rcases htouches with rfl | ⟨entry, rfl⟩
    · exact hput
    · rw [hput, put_put]
  · exact absurd hempty hcursor
  · refine ⟨stored, hsame, ?_⟩
    rcases htouches with rfl | ⟨entry, rfl⟩
    · exact Or.inr ⟨hkept, hget⟩
    · have hentry : entry = stored := by simpa [get?_put] using hget
      exact Or.inl (hentry ▸ hkept)

theorem Touches.get?_of_ne {before after : SyncState} {stream other : String}
    (htouches : before.Touches stream after) (hne : other ≠ stream) :
    after.get? other = before.get? other := by
  rcases htouches with rfl | ⟨entry, rfl⟩
  · rfl
  · rw [get?_put, if_neg hne.symm]

end SyncState

end SourceSync
