/-
Folding records into a cursor state. For values of one exact kind, signed 64-bit integers or
texts, the fold leaves the greatest value that was stored or seen; so it does not matter in
which order the records come, nor over how many folds they are spread.
-/
import SourceSync.Cursor
import SourceSync.Proofs.State
import SourceSync.Proofs.Text.Octets

namespace SourceSync

open Json

/-- The cursor value a record counts with. One that is absent or null does not count. -/
def CursorField.counted? (f : CursorField) (record : Object) : Option Value :=
  (f.valueIn? record).filter (fun v => !v.isNull)

namespace Cursor

/-- The kinds of cursor values that compare exactly. -/
inductive Kind where
  /-- Integers that fit 64 bits with a sign. -/
  | integers
  | texts

/-- Whether a value is of a kind. -/
inductive Kind.Holds : Kind → Value → Prop where
  | integer {n : Number} {x : Int} (hx : n.signed? = some x) : Holds .integers (.number n)
  | text (s : String) : Holds .texts (.string s)

/-- The order within a kind: that of the integers, or of the octets of the texts. -/
inductive AtMost : Value → Value → Prop where
  | integers {m n : Number} {x y : Int} (hx : m.signed? = some x) (hy : n.signed? = some y)
      (hle : x ≤ y) : AtMost (.number m) (.number n)
  | texts {a b : String} (hle : Text.Utf8.encode a ≤ Text.Utf8.encode b) :
      AtMost (.string a) (.string b)

section Order

variable {kind : Kind} {u v w : Value}

theorem number_of_signed? {n : Number} {x : Int} (hx : n.signed? = some x) :
    ∃ hrange, n = .whole x hrange := by
  cases n with
  | whole y hrange =>
      rw [Number.signed?] at hx
      split at hx
      · cases hx
        exact ⟨hrange, rfl⟩
      · cases hx
  | real y => cases hx

theorem atMost_numbers_iff {m n : Number} {x y : Int} (hx : m.signed? = some x)
    (hy : n.signed? = some y) : AtMost (.number m) (.number n) ↔ x ≤ y := by
  constructor
  · intro hle
    cases hle with
    | integers hx' hy' hle =>
        cases hx.symm.trans hx'
        cases hy.symm.trans hy'
        exact hle
  · exact .integers hx hy

theorem atMost_texts_iff {a b : String} : AtMost (.string a) (.string b) ↔ ¬ b < a := by
  rw [← Text.Utf8.encode_lt_encode_iff]
  constructor
  · intro hle
    cases hle with
    | texts hle => exact hle
  · exact .texts

theorem Kind.Holds.total (hv : kind.Holds v) (hw : kind.Holds w) : AtMost v w ∨ AtMost w v := by
  cases hv with
  | integer hx =>
      cases hw with
      | integer hy => exact (Int.le_total _ _).imp (.integers hx hy) (.integers hy hx)
  | text a =>
      cases hw with
      | text b =>
          rw [atMost_texts_iff, atMost_texts_iff, String.not_lt, String.not_lt]
          exact String.le_total a b

theorem Kind.Holds.refl (hv : kind.Holds v) : AtMost v v :=
  (hv.total hv).elim id id

theorem AtMost.trans (huv : AtMost u v) (hvw : AtMost v w) : AtMost u w := by
  cases huv with
  | integers hx hy hle =>
      cases hvw with
      | integers hy' hz hle' =>
          cases hy.symm.trans hy'
          exact .integers hx hz (Int.le_trans hle hle')
  | texts hle =>
      cases hvw with
      | texts hle' => exact .texts (List.le_trans hle hle')

theorem AtMost.antisymm (hvw : AtMost v w) (hwv : AtMost w v) : v = w := by
  cases hvw with
  | integers hx hy hle =>
      have hge := (atMost_numbers_iff hy hx).mp hwv
      obtain ⟨hrange, rfl⟩ := number_of_signed? hx
      obtain ⟨hrange', rfl⟩ := number_of_signed? hy
      cases Int.le_antisymm hle hge
      rfl
  | texts hle =>
      have hle' := String.not_lt.mp (atMost_texts_iff.mp (.texts hle))
      have hge' := String.not_lt.mp (atMost_texts_iff.mp hwv)
      rw [String.le_antisymm hle' hge']

theorem replaces_some_iff {order : Ordering} (horder : compare? v w = some order) :
    replaces v (some w) = true ↔ order = .gt := by
  simp only [replaces, horder]
  cases order <;> simp

/-- A value takes the place of a stored one of its kind exactly if it is not at most that. -/
theorem replaces_iff (hv : kind.Holds v) (hw : kind.Holds w) :
    replaces v (some w) = true ↔ ¬ AtMost v w := by
  cases hv with
  | @integer m x hx =>
      cases hw with
      | @integer n y hy =>
          have horder : compare? (.number m) (.number n) = some (compare x y) := by
            simp only [compare?, compareNumbers, hx, hy]
          rw [replaces_some_iff horder, Std.compare_eq_gt, atMost_numbers_iff hx hy, Int.not_le]
  | text a =>
      cases hw with
      | text b =>
          have hgt : compare a b = .gt ↔ b < a :=
            compareOfLessAndEq_eq_gt String.le_antisymm String.le_total String.not_le a b
          rw [replaces_some_iff rfl, hgt, atMost_texts_iff, Classical.not_not]

end Order

/-- The greatest of some values; of no values there is none. -/
def IsGreatestOf (values : List Value) : Option Value → Prop
  | none => values = []
  | some v => v ∈ values ∧ ∀ w ∈ values, AtMost w v

namespace IsGreatestOf

variable {kind : Kind} {values others : List Value} {greatest other : Option Value} {v : Value}

/-- More values have no smaller greatest value. -/
theorem mono (hsub : ∀ w ∈ values, w ∈ others) (hv : IsGreatestOf values (some v))
    (hother : IsGreatestOf others other) : ∃ w, other = some w ∧ AtMost v w := by
  have hmem : v ∈ others := hsub v hv.1
  cases other with
  | none =>
      rw [show others = [] from hother] at hmem
      cases hmem
  | some w => exact ⟨w, rfl, hother.2 v hmem⟩

/-- There is one greatest value, in whatever order the values are listed. -/
theorem unique (hsame : ∀ w, w ∈ values ↔ w ∈ others) (hgreatest : IsGreatestOf values greatest)
    (hother : IsGreatestOf others other) : greatest = other := by
  cases greatest with
  | none =>
      cases other with
      | none => rfl
      | some w =>
          obtain ⟨v, hv, -⟩ := mono (fun w => (hsame w).mpr) hother hgreatest
          cases hv
  | some v =>
      obtain ⟨w, rfl, hvw⟩ := mono (fun w => (hsame w).mp) hgreatest hother
      rw [hvw.antisymm (hgreatest.2 w ((hsame w).mpr hother.1))]

theorem single (hv : kind.Holds v) : IsGreatestOf [v] (some v) := by
  refine ⟨List.mem_singleton.mpr rfl, fun w hw => ?_⟩
  rw [List.mem_singleton.mp hw]
  exact hv.refl

theorem concat {u : Value} (hmem : u ∈ values ++ [v]) (hold : ∀ w ∈ values, AtMost w u)
    (hnew : AtMost v u) : IsGreatestOf (values ++ [v]) (some u) := by
  refine ⟨hmem, fun w hw => ?_⟩
  rcases List.mem_append.mp hw with hw | hw
  · exact hold w hw
  · rwa [List.mem_singleton.mp hw]

/-- The greatest of some values and one more is the new one if that takes the place of the old. -/
theorem snoc (hgreatest : IsGreatestOf values greatest) (hholds : ∀ w ∈ values, kind.Holds w)
    (hv : kind.Holds v) :
    IsGreatestOf (values ++ [v]) (if replaces v greatest then some v else greatest) := by
  cases greatest with
  | none =>
      rw [show values = [] from hgreatest]
      exact single hv
  | some u =>
      obtain ⟨hmem, hmost⟩ := hgreatest
      have hu : kind.Holds u := hholds u hmem
      split
      · next hreplaces =>
          have huv : AtMost u v := (hv.total hu).resolve_left ((replaces_iff hv hu).mp hreplaces)
          have hlast : v ∈ values ++ [v] := List.mem_append_right _ (List.mem_singleton.mpr rfl)
          exact concat hlast (fun w hw => (hmost w hw).trans huv) hv.refl
      · next hkeeps =>
          have hvu : AtMost v u := Classical.not_not.mp (mt (replaces_iff hv hu).mpr hkeeps)
          exact concat (List.mem_append_left _ hmem) hmost hvu

/-- A value that takes the place of the greatest one was not among the values. -/
theorem not_mem_of_replaces (hgreatest : IsGreatestOf values greatest)
    (hholds : ∀ w ∈ values, kind.Holds w) (hreplaces : replaces v greatest = true) :
    v ∉ values := by
  intro hmem
  have hsingle : ∀ w ∈ [v], w ∈ values := fun w hw => by rwa [List.mem_singleton.mp hw]
  obtain ⟨u, rfl, hvu⟩ := mono hsingle (single (hholds v hmem)) hgreatest
  exact (replaces_iff (hholds v hmem) (hholds u hgreatest.1)).mp hreplaces hvu

end IsGreatestOf

/-- Store a value under a key, unless what is stored there is known to be no smaller. -/
def raise (key : String) (state : Object) (v : Value) : Object :=
  if replaces v (Table.get? key state) then Table.put key v state else state

theorem advance_eq (f : CursorField) (state record : Object) :
    advance f state record =
      match f.counted? record with
      | none => state
      | some v => raise f.stateKey state v := by
  unfold advance CursorField.counted?
  cases f.valueIn? record with
  | none => rfl
  | some v =>
      rw [Option.filter_some]
      cases hnull : v.isNull with
      | true => simp only [hnull, if_true, Bool.not_true, Bool.false_eq_true, if_false]
      | false => simp only [hnull, Bool.false_eq_true, if_false, Bool.not_false, if_true, raise]

theorem foldl_advance (f : CursorField) (records : List Object) (state : Object) :
    records.foldl (advance f) state =
      (records.filterMap f.counted?).foldl (raise f.stateKey) state := by
  rw [List.foldl_filterMap]
  congr
  funext state record
  rw [advance_eq]
  cases f.counted? record <;> rfl

/-- The state `final` is what `state` becomes once some values were folded in: the entry is the
greatest of these and what was stored, and it is written only where another one stood. -/
structure Reached (kind : Kind) (key : String) (state : Object) (values : List Value)
    (final : Object) : Prop where
  holds : ∀ v ∈ (Table.get? key state).toList ++ values, kind.Holds v
  entry : IsGreatestOf ((Table.get? key state).toList ++ values) (Table.get? key final)
  written : final = state ∨ ∃ v, final = Table.put key v state ∧ Table.get? key state ≠ some v

namespace Reached

variable {kind : Kind} {key : String} {state final : Object} {values : List Value} {v : Value}

theorem start (hstate : ∀ v, Table.get? key state = some v → kind.Holds v) :
    Reached kind key state [] state where
  holds := by simpa using hstate
  entry := by
    cases hget : Table.get? key state with
    | none => rfl
    | some v => exact .single (hstate v hget)
  written := Or.inl rfl

/-- One more value keeps the account. -/
theorem raise (hreached : Reached kind key state values final) (hv : kind.Holds v) :
    Reached kind key state (values ++ [v]) (raise key final v) where
  holds := by
    intro w hw
    rw [← List.append_assoc] at hw
    rcases List.mem_append.mp hw with hold | hnew
    · exact hreached.holds w hold
    · rwa [List.mem_singleton.mp hnew]
  entry := by
    have hentry := hreached.entry.snoc hreached.holds hv
    rw [← List.append_assoc, Cursor.raise]
    split at hentry
    · next hreplaces => rwa [if_pos hreplaces, Table.get?_put, if_pos rfl]
    · next hkeeps => rwa [if_neg hkeeps]
  written := by
    rw [Cursor.raise]
    split
    · next hreplaces =>
        have hfresh := hreached.entry.not_mem_of_replaces hreached.holds hreplaces
        refine Or.inr ⟨v, ?_, fun hstored => hfresh (by simp [hstored])⟩
        rcases hreached.written with rfl | ⟨w, rfl, -⟩
        · rfl
        · rw [Table.put_put]
    · exact hreached.written

/-- More values keep the account. -/
theorem run (hreached : Reached kind key state values final) {more : List Value}
    (hmore : ∀ v ∈ more, kind.Holds v) :
    Reached kind key state (values ++ more) (more.foldl (Cursor.raise key) final) := by
  induction more generalizing values final with
  | nil => rwa [List.append_nil]
  | cons v more ih =>
      rw [List.append_cons, List.foldl_cons]
      exact ih (hreached.raise (hmore v List.mem_cons_self))
        (fun w hw => hmore w (List.mem_cons_of_mem v hw))

theorem get?_of_ne (hreached : Reached kind key state values final) {other : String}
    (hne : other ≠ key) : Table.get? other final = Table.get? other state := by
  rcases hreached.written with rfl | ⟨v, rfl, -⟩
  · rfl
  · rw [Table.get?_put, if_neg hne.symm]

/-- The values alone say which state is reached. -/
theorem unique {others : List Value} {final' : Object}
    (hreached : Reached kind key state values final)
    (hreached' : Reached kind key state others final') (hsame : ∀ v, v ∈ values ↔ v ∈ others) :
    final = final' := by
  have hentry : Table.get? key final = Table.get? key final' :=
    hreached.entry.unique (by simp [hsame]) hreached'.entry
  rcases hreached.written with rfl | ⟨v, rfl, hv⟩ <;>
    rcases hreached'.written with rfl | ⟨w, rfl, hw⟩
  · rfl
  · rw [Table.get?_put, if_pos rfl] at hentry
    exact absurd hentry hw
  · rw [Table.get?_put, if_pos rfl] at hentry
    exact absurd hentry.symm hv
  · rw [Table.get?_put, if_pos rfl, Table.get?_put, if_pos rfl] at hentry
    cases hentry
    rfl

end Reached

section Fold

variable {f : CursorField} {kind : Kind} {records : List Object} {state : Object}

theorem holds_of_counted? {record : Object} {v : Value}
    (hrecord : ∀ v, f.valueIn? record = some v → v = .null ∨ kind.Holds v)
    (hv : f.counted? record = some v) : kind.Holds v := by
  rw [CursorField.counted?, Option.filter_eq_some_iff] at hv
  refine (hrecord v hv.1).resolve_left ?_
  rintro rfl
  exact Bool.noConfusion hv.2

theorem reached_foldl
    (hrecords : ∀ record ∈ records, ∀ v, f.valueIn? record = some v → v = .null ∨ kind.Holds v)
    (hstate : ∀ v, Table.get? f.stateKey state = some v → kind.Holds v) :
    Reached kind f.stateKey state (records.filterMap f.counted?)
      (records.foldl (advance f) state) := by
  rw [foldl_advance]
  refine (Reached.start hstate).run fun v hv => ?_
  obtain ⟨record, hmem, hcounted⟩ := List.mem_filterMap.mp hv
  exact holds_of_counted? (hrecords record hmem) hcounted

/-- Folding records whose cursor values are of the kind of the stored one leaves the greatest of
them all as the entry. It touches nothing else, and nothing at all if no record has a value. The
order of the records and how they are spread over folds do not matter, and along the way the
entry never falls. -/
theorem fold_keeps_greatest
    (hrecords : ∀ record ∈ records, ∀ v, f.valueIn? record = some v → v = .null ∨ kind.Holds v)
    (hstate : ∀ v, Table.get? f.stateKey state = some v → kind.Holds v) :
    IsGreatestOf ((Table.get? f.stateKey state).toList ++ records.filterMap f.counted?)
        (Table.get? f.stateKey (records.foldl (advance f) state)) ∧
      ((∀ record ∈ records, f.counted? record = none) → records.foldl (advance f) state = state) ∧
      (∀ key, key ≠ f.stateKey →
        Table.get? key (records.foldl (advance f) state) = Table.get? key state) ∧
      (∀ reordered, records.Perm reordered →
        reordered.foldl (advance f) state = records.foldl (advance f) state) ∧
      (∀ parts : List (List Object), parts.flatten = records →
        parts.foldl (fun s part => part.foldl (advance f) s) state =
          records.foldl (advance f) state) ∧
      ∀ early later, early <+: later → later <+: records → ∀ v,
        Table.get? f.stateKey (early.foldl (advance f) state) = some v →
          ∃ w, Table.get? f.stateKey (later.foldl (advance f) state) = some w ∧ AtMost v w := by
  have hall := reached_foldl hrecords hstate
  refine ⟨hall.entry, fun hnone => ?_, fun key => hall.get?_of_ne, fun reordered hperm => ?_,
    fun parts hparts => ?_, fun early later hearly hlater v hv => ?_⟩
  · rw [foldl_advance, List.filterMap_eq_nil_iff.mpr hnone, List.foldl_nil]
  · have hreordered := reached_foldl
      (fun record hrecord => hrecords record (hperm.mem_iff.mpr hrecord)) hstate
    exact hreordered.unique hall (fun v => (hperm.filterMap f.counted?).symm.mem_iff)
  · rw [← hparts, List.foldl_flatten]
  · have hmid := reached_foldl (fun record hrecord => hrecords record (hlater.subset hrecord))
      hstate
    have hstart := reached_foldl
      (fun record hrecord => hrecords record (hlater.subset (hearly.subset hrecord))) hstate
    refine IsGreatestOf.mono (fun w hw => ?_) (hv ▸ hstart.entry) hmid.entry
    rcases List.mem_append.mp hw with hstored | hseen
    · exact List.mem_append_left _ hstored
    · exact List.mem_append_right _ ((hearly.filterMap f.counted?).subset hseen)

/-- Records that come out of order, one without the field and one with null in it. -/
def scattered : List Object :=
  [[("meta", .object [("seq", .int 3)])], [("meta", .object [("seq", .int 9)])],
    [("id", .int 1)], [("meta", .object [("seq", .null)])], [("meta", .object [("seq", .int 5)])]]

theorem fold_keeps_greatest_scattered :
    IsGreatestOf [.int 4, .int 3, .int 9, .int 5] (some (.int 9)) ∧
      scattered.reverse.foldl (advance (.path ["meta", "seq"]))
          [("page", .int 1), ("seq", .int 4)] =
        [("page", .int 1), ("seq", .int 9)] := by
  have hrecords : ∀ record ∈ scattered, ∀ v,
      (CursorField.path ["meta", "seq"]).valueIn? record = some v →
        v = .null ∨ Kind.integers.Holds v := by
    intro record hrecord v hv
    simp only [scattered, List.mem_cons, List.not_mem_nil, or_false] at hrecord
    rcases hrecord with rfl | rfl | rfl | rfl | rfl <;> cases hv
    · exact Or.inr (.integer rfl)
    · exact Or.inr (.integer rfl)
    · exact Or.inl rfl
    · exact Or.inr (.integer rfl)
  have hstate : ∀ v, Table.get? (CursorField.path ["meta", "seq"]).stateKey
      ([("page", .int 1), ("seq", .int 4)] : Object) = some v → Kind.integers.Holds v := by
    intro v hv
    cases hv
    exact .integer rfl
  obtain ⟨hgreatest, -, -, hperm, -⟩ := fold_keeps_greatest hrecords hstate
  have hfold : scattered.foldl (advance (.path ["meta", "seq"]))
      [("page", .int 1), ("seq", .int 4)] = [("page", .int 1), ("seq", .int 9)] := by
    rfl
  exact ⟨hgreatest, (hperm _ scattered.reverse_perm.symm).trans hfold⟩

end Fold

end Cursor

end SourceSync
