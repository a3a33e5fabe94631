/-
Tables as sorted lists. Storing a value adds its key at most; stored under different keys, values
do not meet. A table in order is settled by what is found in it, so it does not show in which order
it was filled.
-/
import SourceSync.Table

namespace SourceSync

namespace Table

variable {α : Type} {t : Table α} {key other : String}

section Put

theorem put_put (key : String) (first second : α) (t : Table α) :
    put key second (put key first t) = put key second t := by
  induction t with
  | nil => simp [put]
  | cons entry rest ih =>
      obtain ⟨k, v⟩ := entry
      by_cases heq : key = k
      · simp [put, heq]
      · by_cases hlt : key < k
        · simp [put, heq, hlt]
        · simp [put, heq, hlt, ih]

theorem put_comm_of_lt (hlt : key < other) (v w : α) (t : Table α) :
    put key v (put other w t) = put other w (put key v t) := by
  have hne : other ≠ key := by
    rintro rfl
    exact String.lt_irrefl other hlt
  have hge : ¬ other < key := String.lt_asymm hlt
  -- the smaller key goes in front of the greater one, so the greater one never moves its place
  induction t with
  | nil => simp [put, hne, hne.symm, hge, hlt]
  | cons entry rest ih =>
      obtain ⟨k, old⟩ := entry
      by_cases hsame : key = k
      · subst hsame
        simp [put, hne, hge]
      · by_cases hbefore : key < k
        · by_cases hother : other = k
          · subst hother
            simp [put, hsame, hlt, hne, hge]
          · by_cases hotherBefore : other < k <;>
              simp [put, hsame, hbefore, hother, hotherBefore, hne, hne.symm, hge, hlt]
        · have hk : k < key := Std.lt_of_le_of_ne (String.not_lt.mp hbefore) (Ne.symm hsame)
          have hko : k < other := String.lt_trans hk hlt
          have hother : other ≠ k := by
            rintro rfl
            exact String.lt_irrefl other hko
          simp [put, hsame, hbefore, hother, String.lt_asymm hko, ih]

/-- It makes no difference in which order values are stored under different keys. -/
theorem put_comm (hne : key ≠ other) (v w : α) (t : Table α) :
    put key v (put other w t) = put other w (put key v t) := by
  by_cases hlt : key < other
  · exact put_comm_of_lt hlt v w t
  · exact (put_comm_of_lt (Std.lt_of_le_of_ne (String.not_lt.mp hlt) (Ne.symm hne)) w v t).symm

theorem mem_keys_put {value : α} :
    other ∈ keys (put key value t) ↔ other = key ∨ other ∈ keys t := by
  induction t with
  | nil => simp [put, keys]
  | cons entry rest ih =>
      obtain ⟨k, v⟩ := entry
      simp only [keys] at ih ⊢
      unfold put
      split
      · next hsame => simp [hsame]
      · split
        · simp
        · simp only [List.map_cons, List.mem_cons, ih, or_left_comm]

theorem mem_keys_ofList {entries : List (String × α)} :
    key ∈ keys (ofList entries) ↔ key ∈ entries.map Prod.fst := by
  have hfold (t : Table α) :
      key ∈ keys (entries.foldl (fun t e => put e.1 e.2 t) t) ↔
        key ∈ entries.map Prod.fst ∨ key ∈ keys t := by
    induction entries generalizing t with
    | nil => simp
    | cons e rest ih =>
        rw [List.foldl_cons, ih, mem_keys_put, List.map_cons, List.mem_cons, or_left_comm,
          or_assoc]
  rw [ofList, hfold]
  simp [keys]

end Put

section Get

theorem get?_append (name : String) (t u : Table α) :
    get? name (t ++ u) = (get? name t).or (get? name u) := by
  induction t with
  | nil => rfl
  | cons e rest ih =>
      obtain ⟨k, v⟩ := e
      by_cases hk : k = name
      · simp [get?, hk]
      · simp [get?, hk, ih]

theorem mem_of_get? {v : α} (hget : get? key t = some v) : (key, v) ∈ t := by
  induction t with
  | nil => cases hget
  | cons entry rest ih =>
      obtain ⟨k, old⟩ := entry
      rw [get?] at hget
      split at hget
      · next hsame =>
          cases hget
          exact hsame ▸ List.mem_cons_self
      · exact List.mem_cons_of_mem _ (ih hget)

end Get

section Order

/-- A key behind all others is stored at the end. -/
theorem put_of_last (value : α) (hlast : ∀ e ∈ t, e.1 < key) :
    put key value t = t ++ [(key, value)] := by
  induction t with
  | nil => rfl
  | cons e rest ih =>
      obtain ⟨k, v⟩ := e
      have hk : k < key := hlast (k, v) List.mem_cons_self
      have hne : key ≠ k := by
        rintro rfl
        exact String.lt_irrefl key hk
      rw [put, if_neg hne, if_neg (String.lt_asymm hk),
        ih (fun e he => hlast e (List.mem_cons_of_mem _ he))]
      rfl

theorem foldl_put {rest : Table α} (done : Table α) (hsorted : Sorted (done ++ rest)) :
    rest.foldl (fun t e => put e.1 e.2 t) done = done ++ rest := by
  induction rest generalizing done with
  | nil => exact (List.append_nil done).symm
  | cons e rest ih =>
      have hlast : ∀ d ∈ done, d.1 < e.1 := fun d hd =>
        (List.pairwise_append.mp hsorted).2.2 d hd e List.mem_cons_self
      have hsplit : done ++ e :: rest = done ++ [e] ++ rest := by simp
      rw [List.foldl_cons, put_of_last e.2 hlast, hsplit]
      exact ih (done ++ [e]) (hsplit ▸ hsorted)

theorem ofList_of_sorted (hsorted : Sorted t) : ofList t = t :=
  foldl_put [] hsorted

theorem Sorted.nodup_keys (hsorted : t.Sorted) : (keys t).Nodup := by
  apply List.pairwise_map.mpr
  apply List.Pairwise.imp ?_ hsorted
  intro a b hlt heq
  exact String.lt_irrefl a.1 (heq ▸ hlt)

/-- What stands in a table in order is found under its key. -/
theorem Sorted.get?_of_mem {v : α} (hsorted : t.Sorted) (hmem : (key, v) ∈ t) :
    get? key t = some v := by
  induction t with
  | nil => cases hmem
  | cons entry rest ih =>
      obtain ⟨k, old⟩ := entry
      obtain ⟨hhead, hrest⟩ := List.pairwise_cons.mp hsorted
      rw [get?]
      rcases List.mem_cons.mp hmem with hfirst | hmem
      · cases hfirst
        exact if_pos rfl
      · have hne : k ≠ key := by
          rintro rfl
          exact String.lt_irrefl k (hhead (k, v) hmem)
        rw [if_neg hne, ih hrest hmem]

theorem Sorted.nodup (hsorted : t.Sorted) : t.Nodup := by
  apply List.Pairwise.imp ?_ hsorted
  rintro a b hlt rfl
  exact String.lt_irrefl a.1 hlt

/-- Tables in order in which the same is found are the same. -/
theorem Sorted.ext {u : Table α} (ht : t.Sorted) (hu : u.Sorted)
    (hget : ∀ key, get? key t = get? key u) : t = u := by
  have hmem : ∀ e : String × α, e ∈ t ↔ e ∈ u := fun e =>
    ⟨fun he => mem_of_get? ((hget e.1).symm.trans (ht.get?_of_mem he)),
      fun he => mem_of_get? ((hget e.1).trans (hu.get?_of_mem he))⟩
  have hperm : t.Perm u := (List.perm_ext_iff_of_nodup ht.nodup hu.nodup).mpr hmem
  apply hperm.eq_of_pairwise ?_ ht hu
  intro a b _ _ hab hba
  exact absurd hba (String.lt_asymm hab)

end Order

end Table

namespace SortedTable

variable {α : Type}

theorem put_put (key : String) (first second : α) (t : SortedTable α) :
    put key second (put key first t) = put key second t :=
  SortedTable.ext (Table.put_put key first second t.entries)

/-- A table is settled by what is found in it. -/
theorem ext_get? {t u : SortedTable α} (hget : ∀ key, t.get? key = u.get? key) : t = u :=
  SortedTable.ext (t.sorted.ext u.sorted hget)

end SortedTable

end SourceSync
