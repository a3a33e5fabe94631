/-
Free-form data is kept in key order. Sorting such data changes nothing, so typed reading
gives it back as it is.
-/
import SourceSync.Json.Decode
import SourceSync.Proofs.Table

namespace SourceSync

namespace Json

namespace Value

mutual

/-- The members of every object in a value stand in key order, and every key once. -/
def Ordered : Value → Prop
  | .array items => OrderedItems items
  | .object members => Table.Sorted members ∧ OrderedMembers members
  | _ => True

def OrderedItems : List Value → Prop
  | [] => True
  | v :: rest => Ordered v ∧ OrderedItems rest

def OrderedMembers : List (String × Value) → Prop
  | [] => True
  | (_, v) :: rest => Ordered v ∧ OrderedMembers rest

end

mutual

theorem sorted_of_ordered : ∀ {v : Value}, v.Ordered → v.sorted = v
  | .null, _ => rfl
  | .bool _, _ => rfl
  | .number _, _ => rfl
  | .string _, _ => rfl
  | .array items, hv => by rw [sorted, sortedItems_of_ordered hv]
  | .object members, hv => by
      rw [sorted, sortedMembers_of_ordered hv.2, Table.ofList_of_sorted hv.1]

theorem sortedItems_of_ordered : ∀ {items : List Value}, OrderedItems items →
    sortedItems items = items
  | [], _ => rfl
  | v :: rest, hv => by
      rw [sortedItems, sorted_of_ordered hv.1, sortedItems_of_ordered hv.2]

theorem sortedMembers_of_ordered : ∀ {members : List (String × Value)}, OrderedMembers members →
    sortedMembers members = members
  | [], _ => rfl
  | (_, v) :: rest, hv => by
      rw [sortedMembers, sorted_of_ordered hv.1, sortedMembers_of_ordered hv.2]

end

end Value

theorem Decode.object_of_ordered {members : Object} (hmembers : (Value.object members).Ordered) :
    Decode.object (.object members) = .ok members := by
  simp only [Decode.object, Value.sorted_of_ordered hmembers]

theorem Value.orderedMembers_iff {members : List (String × Value)} :
    OrderedMembers members ↔ ∀ m ∈ members, m.2.Ordered := by
  induction members with
  | nil => exact ⟨fun _ => nofun, fun _ => trivial⟩
  | cons m rest ih => rw [OrderedMembers, ih, List.forall_mem_cons]

/-- What is written item by item is read item by item. -/
theorem Decode.mapM_written {α β : Type} {write : α → β} {read : β → Decode.Result α}
    {items : List α} (hitems : ∀ a ∈ items, read (write a) = .ok a) :
    (items.map write).mapM read = .ok items := by
  induction items with
  | nil => rfl
  | cons a rest ih =>
      rw [List.map_cons, List.mapM_cons, hitems a List.mem_cons_self,
        ih (fun b hb => hitems b (List.mem_cons_of_mem a hb))]
      rfl

/-- A table of objects that are in key order themselves. -/
theorem Decode.table_of_ordered {t : SortedTable Object}
    (ht : ∀ e ∈ t, (Value.object e.2).Ordered) :
    Decode.table Decode.object (.object (t.entries.map (fun e => (e.1, .object e.2)))) =
      .ok t := by
  have hread : (t.entries.map (fun e => (e.1, Value.object e.2))).mapM
      (fun m => (Decode.object m.2).map (fun a => (m.1, a))) = .ok t.entries := by
    apply mapM_written
    intro e he
    rw [object_of_ordered (ht e he)]
    rfl
  rw [Decode.table, hread]
  exact congrArg Except.ok (SortedTable.ext (Table.ofList_of_sorted t.sorted))

end Json

end SourceSync
