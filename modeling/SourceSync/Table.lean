/-
String-keyed tables kept in key order: the listing of a table depends only on
its entries, never on the order in which they were put in. Keys are compared
character by character, which is also the order of their UTF-8 octets.

A `Table` is the bare list of entries, which is what the members of a JSON object have
to be: an inductive type cannot hold its own values together with a proof about them. A
`SortedTable` is one whose keys are in order, each of them once.
-/

namespace SourceSync

universe u

/-- Entries by key. -/
abbrev Table (α : Type u) : Type u := List (String × α)

namespace Table

variable {α : Type u}

def get? (key : String) : Table α → Option α
  | [] => none
  | (k, v) :: rest => if k = key then some v else get? key rest

def has (key : String) (t : Table α) : Bool :=
  (get? key t).isSome

/-- Store a value under a key, in place of what was stored there. -/
def put (key : String) (value : α) : Table α → Table α
  | [] => [(key, value)]
  | (k, v) :: rest =>
    if key = k then (key, value) :: rest
    else if key < k then (key, value) :: (k, v) :: rest
    else (k, v) :: put key value rest

/-- The table of a list of entries; of several entries with one key the last stays. -/
def ofList (entries : List (String × α)) : Table α :=
  entries.foldl (fun t e => put e.1 e.2 t) []

def keys (t : Table α) : List String :=
  t.map (·.1)

/-- Each key is smaller than all keys after it. -/
def Sorted (t : Table α) : Prop :=
  t.Pairwise (fun a b => a.1 < b.1)

instance (t : Table α) : Decidable t.Sorted :=
  inferInstanceAs (Decidable (t.Pairwise (fun a b => a.1 < b.1)))

/-- What was stored is found again, and nothing else changes. -/
theorem get?_put (key other : String) (value : α) (t : Table α) :
    get? other (put key value t) = if key = other then some value else get? other t := by
  induction t with
  | nil => simp [put, get?]
  | cons e rest ih =>
    obtain ⟨k, v⟩ := e
    unfold put
    split
    · next h => subst h; simp only [get?]; split <;> rfl
    · next h =>
      split
      · simp [get?]
      · simp only [get?, ih]
        by_cases hk : k = other
        · have : ¬ key = other := fun hko => h (hko.trans hk.symm)
          simp [hk, this]
        · simp [hk]

theorem get?_put_self (key : String) (value : α) (t : Table α) :
    get? key (put key value t) = some value := by
  simp [get?_put]

/-- An entry of a table in which a value has been stored is that value's or an old one. -/
theorem mem_put {t : Table α} {key : String} {v : α} {e : String × α} (he : e ∈ put key v t) :
    e = (key, v) ∨ e ∈ t := by
  induction t with
  | nil => exact Or.inl (List.mem_singleton.mp he)
  | cons entry rest ih =>
      obtain ⟨k, old⟩ := entry
      unfold put at he
      split at he
      · exact (List.mem_cons.mp he).imp_right (List.mem_cons_of_mem _)
      · split at he
        · exact List.mem_cons.mp he
        · rcases List.mem_cons.mp he with rfl | he
          · exact Or.inr List.mem_cons_self
          · exact (ih he).imp_right (List.mem_cons_of_mem _)

/-- Storing a value keeps the keys in order. -/
theorem Sorted.put {t : Table α} (hsorted : t.Sorted) (key : String) (v : α) :
    (Table.put key v t).Sorted := by
  induction t with
  | nil => exact List.pairwise_singleton _ _
  | cons entry rest ih =>
      obtain ⟨k, old⟩ := entry
      obtain ⟨hhead, hrest⟩ := List.pairwise_cons.mp hsorted
      rw [Table.put]
      by_cases hsame : key = k
      · subst hsame
        rw [if_pos rfl]
        exact List.pairwise_cons.mpr ⟨hhead, hrest⟩
      · rw [if_neg hsame]
        by_cases hlt : key < k
        · rw [if_pos hlt]
          refine List.pairwise_cons.mpr ⟨?_, hsorted⟩
          intro e he
          rcases List.mem_cons.mp he with rfl | he
          · exact hlt
          · exact String.lt_trans hlt (hhead e he)
        · rw [if_neg hlt]
          refine List.pairwise_cons.mpr ⟨?_, ih hrest⟩
          intro e he
          rcases mem_put he with rfl | he
          · exact Std.lt_of_le_of_ne (String.not_lt.mp hlt) (Ne.symm hsame)
          · exact hhead e he

theorem ofList_sorted (entries : List (String × α)) : (ofList entries).Sorted := by
  have hfold : ∀ t : Table α, t.Sorted → (entries.foldl (fun t e => put e.1 e.2 t) t).Sorted := by
    induction entries with
    | nil => exact fun _ hsorted => hsorted
    | cons e rest ih =>
        intro t hsorted
        exact ih _ (hsorted.put e.1 e.2)
  exact hfold [] List.Pairwise.nil

end Table

/-- A table in key order. -/
@[ext]
structure SortedTable (α : Type u) where
  entries : Table α
  sorted : entries.Sorted
  deriving DecidableEq, Repr

namespace SortedTable

variable {α : Type u}

instance : EmptyCollection (SortedTable α) := ⟨⟨[], List.Pairwise.nil⟩⟩

instance : Inhabited (SortedTable α) := ⟨∅⟩

instance : Membership (String × α) (SortedTable α) := ⟨fun t e => e ∈ t.entries⟩

@[simp] theorem mem_iff {e : String × α} {t : SortedTable α} : e ∈ t ↔ e ∈ t.entries :=
  Iff.rfl

@[simp] theorem entries_eq_nil {t : SortedTable α} : t.entries = [] ↔ t = ∅ :=
  (SortedTable.ext_iff (y := ∅)).symm

/-- The table of a list of entries; of several entries with one key the last stays. -/
def ofEntries (entries : List (String × α)) : SortedTable α :=
  ⟨Table.ofList entries, Table.ofList_sorted entries⟩

def get? (key : String) (t : SortedTable α) : Option α :=
  Table.get? key t.entries

def has (key : String) (t : SortedTable α) : Bool :=
  Table.has key t.entries

/-- Store a value under a key, in place of what was stored there. -/
def put (key : String) (value : α) (t : SortedTable α) : SortedTable α :=
  ⟨Table.put key value t.entries, t.sorted.put key value⟩

theorem get?_put (key other : String) (value : α) (t : SortedTable α) :
    get? other (put key value t) = if key = other then some value else get? other t :=
  Table.get?_put key other value t.entries

theorem get?_put_self (key : String) (value : α) (t : SortedTable α) :
    get? key (put key value t) = some value :=
  Table.get?_put_self key value t.entries

end SortedTable

end SourceSync
