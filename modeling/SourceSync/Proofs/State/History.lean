/-
Sync state from one run to the next. A state is read back from its text, and different states have
different texts. Whatever is merged into a state, and in whatever order, a stream resumes from the
last state with content that was merged for it; a merge is reported just when the text changes.
-/
import Mathlib.Data.List.Induction
import SourceSync.Proofs.Json.Order
import SourceSync.Proofs.Json.ReadBack
import SourceSync.Proofs.State

namespace SourceSync

open Json

namespace Json

/-- Whether a number is the floating-point zero with a minus sign. -/
def Number.isNegativeZero : Number → Bool
  | .real x => x.negative && x.magnitude == 0
  | .whole _ _ => false

/-- Apart from zeros, numbers that are equal have the same sign and the same magnitude. -/
theorem Number.eq_of_same {m n : Number} (hm : m.isNegativeZero = false)
    (hn : n.isNegativeZero = false) (hsame : m.same n = true) : m = n := by
  cases m with
  | whole k hk =>
      cases n with
      | whole l hl =>
          obtain rfl : k = l := by simpa [Number.same] using hsame
          rfl
      | real y => simp [Number.same] at hsame
  | real x =>
      cases n with
      | whole l hl => simp [Number.same] at hsame
      | real y =>
          obtain ⟨negative, magnitude, hx⟩ := x
          obtain ⟨sign, size, hy⟩ := y
          have horder : (if negative then -(magnitude : Int) else magnitude) =
              if sign then -(size : Int) else size := by
            simpa [Number.same, Decimal.Binary64.same, Decimal.Binary64.order] using hsame
          simp only [Number.isNegativeZero, Bool.and_eq_false_iff, beq_eq_false_iff_ne] at hm hn
          cases negative <;> cases sign <;> simp at horder hm hn ⊢ <;> omega

namespace Value

/-- A value as it is kept: the members of every object stand in key order and every key once. Of
its numbers the floating-point ones are read again as they were written. -/
structure Legible (v : Value) : Prop where
  ordered : v.Ordered
  reals : ∀ x, .real x ∈ v.numbers → (Number.real x).ReadsBack

/-- No number in the value is the zero with a minus sign, the one number that equals another. -/
def PlainZeros (v : Value) : Prop :=
  ∀ n ∈ v.numbers, n.isNegativeZero = false

theorem Legible.numbers {v : Value} (hv : v.Legible) : ∀ n ∈ v.numbers, n.ReadsBack :=
  Number.readsBack_of_reals hv.reals

/-- However deep they are nested, values that are written alike are alike. -/
theorem eq_of_text_eq {v w : Value} (hv : v.Legible) (hw : w.Legible) (htext : v.text = w.text) :
    v = w := by
  have hrender : v.render = w.render := by
    simpa only [text, String.toList_ofList] using congrArg String.toList htext
  have hfirst := readWithin_render (Nat.le_max_left v.depth w.depth) hv.numbers
  have hsecond := readWithin_render (Nat.le_max_right v.depth w.depth) hw.numbers
  rw [hrender, hsecond] at hfirst
  exact (Except.ok.inj hfirst).symm

mutual

/-- Without a negative zero, equal values are the same value. -/
theorem eq_of_same : ∀ {v w : Value}, v.PlainZeros → w.PlainZeros → same v w = true → v = w
  | .null, w, _, _, hsame => by cases w <;> first | rfl | cases hsame
  | .bool _, w, _, _, hsame => by
      cases w with
      | bool _ => rw [beq_iff_eq.mp hsame]
      | _ => cases hsame
  | .number m, w, hv, hw, hsame => by
      cases w with
      | number n =>
          exact congrArg Value.number
            (Number.eq_of_same (hv m List.mem_cons_self) (hw n List.mem_cons_self) hsame)
      | _ => cases hsame
  | .string _, w, _, _, hsame => by
      cases w with
      | string _ => rw [beq_iff_eq.mp hsame]
      | _ => cases hsame
  | .array items, w, hv, hw, hsame => by
      cases w with
      | array others => exact congrArg Value.array (eq_of_sameItems hv hw hsame)
      | _ => cases hsame
  | .object members, w, hv, hw, hsame => by
      cases w with
      | object others => exact congrArg Value.object (eq_of_sameMembers hv hw hsame)
      | _ => cases hsame

theorem eq_of_sameItems : ∀ {items others : List Value},
    (∀ n ∈ itemNumbers items, n.isNegativeZero = false) →
    (∀ n ∈ itemNumbers others, n.isNegativeZero = false) →
      sameItems items others = true → items = others
  | [], [], _, _, _ => rfl
  | [], _ :: _, _, _, hsame => by cases hsame
  | _ :: _, [], _, _, hsame => by cases hsame
  | v :: rest, w :: others, hv, hw, hsame => by
      obtain ⟨hfirst, hrest⟩ := Bool.and_eq_true_iff.mp hsame
      rw [eq_of_same (fun n hn => hv n (List.mem_append_left _ hn))
          (fun n hn => hw n (List.mem_append_left _ hn)) hfirst,
        eq_of_sameItems (fun n hn => hv n (List.mem_append_right _ hn))
          (fun n hn => hw n (List.mem_append_right _ hn)) hrest]

theorem eq_of_sameMembers : ∀ {members others : List (String × Value)},
    (∀ n ∈ memberNumbers members, n.isNegativeZero = false) →
    (∀ n ∈ memberNumbers others, n.isNegativeZero = false) →
      sameMembers members others = true → members = others
  | [], [], _, _, _ => rfl
  | [], _ :: _, _, _, hsame => by cases hsame
  | _ :: _, [], _, _, hsame => by cases hsame
  | (k, v) :: rest, (l, w) :: others, hv, hw, hsame => by
      obtain ⟨hboth, hrest⟩ := Bool.and_eq_true_iff.mp hsame
      obtain ⟨hkey, hfirst⟩ := Bool.and_eq_true_iff.mp hboth
      rw [beq_iff_eq.mp hkey, eq_of_same (fun n hn => hv n (List.mem_append_left _ hn))
          (fun n hn => hw n (List.mem_append_left _ hn)) hfirst,
        eq_of_sameMembers (fun n hn => hv n (List.mem_append_right _ hn))
          (fun n hn => hw n (List.mem_append_right _ hn)) hrest]

end

end Value

end Json

namespace SyncState

variable {s t : SyncState} {stream : String} {cursor : Object}
  {history : List (String × Object)}

section Written

theorem toJson_injective (hjson : s.toJson = t.toJson) : s = t := by
  obtain ⟨streams⟩ := s
  obtain ⟨others⟩ := t
  have hentry : ∀ d e : String × Object, (d.1, Value.object d.2) = (e.1, Value.object e.2) →
      d = e := by
    rintro ⟨k, o⟩ ⟨l, p⟩ heq
    cases heq
    rfl
  have hentries := (List.map_inj_right hentry).mp (Value.object.inj hjson)
  exact congrArg SyncState.mk (SortedTable.ext hentries)

theorem mem_numbers_iff {n : Number} :
    n ∈ s.toJson.numbers ↔ ∃ e ∈ s.streams, n ∈ (Value.object e.2).numbers := by
  simp [toJson, Value.numbers, Value.mem_memberNumbers]

theorem plainZeros_iff :
    s.toJson.PlainZeros ↔ ∀ e ∈ s.streams, (Value.object e.2).PlainZeros := by
  constructor
  · intro hs e he n hn
    exact hs n (mem_numbers_iff.mpr ⟨e, he, hn⟩)
  · intro hs n hn
    obtain ⟨e, he, hn⟩ := mem_numbers_iff.mp hn
    exact hs e he n hn

/-- A state whose cursor states are all as they are kept; the streams stand in order anyway. -/
def Legible (s : SyncState) : Prop :=
  ∀ e ∈ s.streams, (Value.object e.2).Legible

theorem Legible.toJson (hs : s.Legible) : s.toJson.Legible where
  ordered := by
    refine ⟨List.pairwise_map.mpr s.streams.sorted, Value.orderedMembers_iff.mpr ?_⟩
    exact List.forall_mem_map.mpr (fun e he => (hs e he).ordered)
  reals x hx := by
    obtain ⟨e, he, hx⟩ := mem_numbers_iff.mp hx
    exact (hs e he).reals x hx

theorem ofText_text (hs : s.Legible) (hdepth : s.toJson.depth ≤ nestingLimit) :
    ofText s.text = .ok s := by
  have htable : Decode.table Decode.object s.toJson = .ok s.streams :=
    Decode.table_of_ordered (fun e he => (hs e he).ordered)
  have hread : (Json.read s.text).bind decode = .ok s := by
    rw [text, read_text hdepth hs.toJson.numbers]
    simp only [Except.bind, decode, htable]
    rfl
  rw [ofText, hread]

theorem text_eq_iff (hs : s.Legible) (ht : t.Legible) : s.text = t.text ↔ s = t :=
  ⟨fun htext => toJson_injective (Value.eq_of_text_eq hs.toJson ht.toJson htext), congrArg text⟩

theorem same_iff (hs : s.toJson.PlainZeros) (ht : t.toJson.PlainZeros) :
    s.same t = true ↔ s = t := by
  constructor
  · exact fun hsame => toJson_injective (Value.eq_of_same hs ht hsame)
  · rintro rfl
    exact s.toJson.same_refl

end Written

section Merging

/-- The state after merges, one after another. -/
def mergeAll (s : SyncState) (history : List (String × Object)) : SyncState :=
  history.foldl (fun s m => s.merge m.1 m.2) s

/-- The last state with content that was merged for a stream. -/
def lastMerged? (stream : String) (history : List (String × Object)) : Option Object :=
  (history.reverse.find? (fun m => m.1 == stream && !m.2.isEmpty)).map (·.2)

/-- Entries that are both absent, or equal. -/
def SameEntry : Option Object → Option Object → Prop :=
  Option.Rel (fun stored merged => Object.same stored merged = true)

theorem mergeAll_concat (s : SyncState) (history : List (String × Object))
    (m : String × Object) : s.mergeAll (history ++ [m]) = (s.mergeAll history).merge m.1 m.2 := by
  rw [mergeAll, List.foldl_append]
  rfl

theorem lastMerged?_concat (history : List (String × Object)) (m : String × Object) :
    lastMerged? stream (history ++ [m]) =
      if m.1 = stream ∧ m.2 ≠ [] then some m.2 else lastMerged? stream history := by
  rw [lastMerged?, List.reverse_concat, List.find?_cons]
  by_cases hm : m.1 = stream ∧ m.2 ≠ []
  · have hfound : (m.1 == stream && !m.2.isEmpty) = true := by simpa using hm
    rw [if_pos hm, hfound]
    rfl
  · have hother : (m.1 == stream && !m.2.isEmpty) = false := by
      rw [← Bool.not_eq_true]
      simpa using hm
    rw [if_neg hm, hother]
    rfl

theorem exists_mem_of_lastMerged? (hlast : lastMerged? stream history = some cursor) :
    (stream, cursor) ∈ history := by
  obtain ⟨⟨name, state⟩, hfind, rfl⟩ := Option.map_eq_some_iff.mp hlast
  have hname : name = stream := by
    have := List.find?_some hfind
    simp only [Bool.and_eq_true, beq_iff_eq] at this
    exact this.1
  exact hname ▸ List.mem_reverse.mp (List.mem_of_find?_eq_some hfind)

/-- What a merge keeps, a history of merges keeps. -/
theorem mergeAll_keeps {P : SyncState → Prop} {Q : Object → Prop}
    (hmerge : ∀ s stream cursor, P s → Q cursor → P (s.merge stream cursor)) (hs : P s)
    (hhistory : ∀ m ∈ history, Q m.2) : P (s.mergeAll history) := by
  induction history generalizing s with
  | nil => exact hs
  | cons m rest ih =>
      obtain ⟨hm, hrest⟩ := List.forall_mem_cons.mp hhistory
      exact ih (hmerge s m.1 m.2 hs hm) hrest

theorem mem_streams_merge {e : String × Object}
    (he : e ∈ (s.merge stream cursor).streams) :
    e = (stream, cursor) ∨ e ∈ s.streams := by
  rcases s.merge_cases stream cursor with ⟨-, hput⟩ | ⟨hsame, -⟩
  · rw [hput] at he
    exact Table.mem_put he
  · rw [hsame] at he
    exact Or.inr he

theorem Legible.merge (hs : s.Legible) (hcursor : (Value.object cursor).Legible) :
    (s.merge stream cursor).Legible := by
  intro e he
  rcases mem_streams_merge he with rfl | he
  · exact hcursor
  · exact hs e he

theorem plainZeros_merge (hs : s.toJson.PlainZeros) (hcursor : (Value.object cursor).PlainZeros) :
    (s.merge stream cursor).toJson.PlainZeros := by
  refine plainZeros_iff.mpr (fun e he => ?_)
  rcases mem_streams_merge he with rfl | he
  · exact hcursor
  · exact plainZeros_iff.mp hs e he

theorem Legible.mergeAll (hs : s.Legible)
    (hhistory : ∀ m ∈ history, (Value.object m.2).Legible) : (s.mergeAll history).Legible :=
  mergeAll_keeps (P := Legible) (Q := fun o => (Value.object o).Legible)
    (fun _ _ _ => Legible.merge) hs hhistory

theorem plainZeros_mergeAll (hs : s.toJson.PlainZeros)
    (hhistory : ∀ m ∈ history, (Value.object m.2).PlainZeros) :
    (s.mergeAll history).toJson.PlainZeros :=
  mergeAll_keeps (P := fun s => s.toJson.PlainZeros) (Q := fun o => (Value.object o).PlainZeros)
    (fun _ _ _ => plainZeros_merge) hs hhistory

theorem SameEntry.refl : ∀ entry : Option Object, SameEntry entry entry
  | none => .none
  | some stored => .some (Value.sameMembers_refl stored)

/-- A stream's entry after merges is the last state with content that was merged for it, or the
one it started with. -/
theorem sameEntry_mergeAll (s : SyncState) (history : List (String × Object)) (stream : String) :
    SameEntry ((s.mergeAll history).get? stream)
      ((lastMerged? stream history).or (s.get? stream)) := by
  induction history using List.reverseRecOn with
  | nil => exact SameEntry.refl _
  | append_singleton history m ih =>
      obtain ⟨name, cursor⟩ := m
      rw [mergeAll_concat, lastMerged?_concat]
      rcases (s.mergeAll history).merge_cases name cursor with
        ⟨hcontent, hput⟩ | ⟨hkept, hnothing⟩
      · rw [hput, get?_put]
        by_cases hname : name = stream
        · rw [if_pos hname, if_pos ⟨hname, hcontent⟩]
          exact SameEntry.refl _
        · rw [if_neg hname, if_neg (fun hm => hname hm.1)]
          exact ih
      · rw [hkept]
        split
        · next hm =>
            -- not written although it has content: an equal state is stored already
            rcases hnothing with hempty | ⟨stored, hget, hsame⟩
            · exact absurd hempty hm.2
            · obtain rfl : name = stream := hm.1
              rw [hget]
              exact .some hsame
        · exact ih

theorem SameEntry.eq {stored merged : Option Object} (hsame : SameEntry stored merged)
    (hstored : ∀ o, stored = some o → (Value.object o).PlainZeros)
    (hmerged : ∀ o, merged = some o → (Value.object o).PlainZeros) : stored = merged := by
  cases hsame with
  | none => rfl
  | some hsame => rw [Value.eq_of_sameMembers (hstored _ rfl) (hmerged _ rfl) hsame]

theorem plainZeros_of_get? (hs : s.toJson.PlainZeros) (hget : s.get? stream = some cursor) :
    (Value.object cursor).PlainZeros :=
  plainZeros_iff.mp hs _ (Table.mem_of_get? hget)

theorem get?_mergeAll (hs : s.toJson.PlainZeros)
    (hhistory : ∀ m ∈ history, (Value.object m.2).PlainZeros) (stream : String) :
    (s.mergeAll history).get? stream = (lastMerged? stream history).or (s.get? stream) := by
  apply (sameEntry_mergeAll s history stream).eq
  · intro stored hstored
    exact plainZeros_of_get? (plainZeros_mergeAll hs hhistory) hstored
  · intro merged hmerged
    rcases Option.or_eq_some_iff.mp hmerged with hlast | ⟨-, hstart⟩
    · exact hhistory _ (exists_mem_of_lastMerged? hlast)
    · exact plainZeros_of_get? hs hstart

theorem changes_iff (hs : s.Legible) (hcursor : (Value.object cursor).Legible) :
    s.changes stream cursor = true ↔ (s.merge stream cursor).text ≠ s.text := by
  rw [Ne, text_eq_iff (hs.merge hcursor) hs]
  constructor
  · intro hchanges hsame
    -- what is stored after a merge that changes something would have been stored before it
    have hget : s.get? stream = some cursor := by
      rw [← hsame, merge, if_pos hchanges]
      exact s.streams.get?_put_self stream cursor
    simp [changes, hget, Object.same, Value.sameMembers_refl] at hchanges
  · intro hne
    by_contra hchanges
    exact hne (if_neg hchanges)

/-- Histories that end in the same states for every stream leave the same state. -/
theorem mergeAll_congr {other : List (String × Object)} (hs : s.toJson.PlainZeros)
    (hhistory : ∀ m ∈ history, (Value.object m.2).PlainZeros)
    (hother : ∀ m ∈ other, (Value.object m.2).PlainZeros)
    (hlast : ∀ stream, lastMerged? stream other = lastMerged? stream history) :
    s.mergeAll other = s.mergeAll history := by
  have hget : ∀ stream, (s.mergeAll other).get? stream = (s.mergeAll history).get? stream := by
    intro stream
    rw [get?_mergeAll hs hother, get?_mergeAll hs hhistory, hlast]
  exact congrArg SyncState.mk (SortedTable.ext_get? hget)

end Merging

/-- State carried from run to run. Nested up to the limit, a state is read back from its text, and
two states have one text exactly if they are equal. After any merges a stream has the last state
with content that was merged for it, or else the entry it started with; histories that end alike
for every stream leave one text. A merge reports a change exactly if it changes the text. Equality
does not tell the two floating-point zeros apart, so entries are exact where none is negative. -/
theorem text_follows_history {s : SyncState} {history : List (String × Object)}
    (hs : s.Legible) (hhistory : ∀ m ∈ history, (Value.object m.2).Legible) :
    (s.toJson.depth ≤ nestingLimit → ofText s.text = .ok s) ∧
      (∀ t : SyncState, t.Legible →
        (s.text = t.text ↔ s = t) ∧
        (s.toJson.PlainZeros → t.toJson.PlainZeros → (s.same t = true ↔ s = t))) ∧
      (∀ stream, SameEntry ((s.mergeAll history).get? stream)
        ((lastMerged? stream history).or (s.get? stream))) ∧
      (∀ before m after, history = before ++ m :: after →
        ((s.mergeAll before).changes m.1 m.2 = true ↔
          (s.mergeAll (before ++ [m])).text ≠ (s.mergeAll before).text)) ∧
      (s.toJson.PlainZeros → (∀ m ∈ history, (Value.object m.2).PlainZeros) →
        (∀ stream, (s.mergeAll history).get? stream =
          (lastMerged? stream history).or (s.get? stream)) ∧
        ∀ other, (∀ m ∈ other, (Value.object m.2).PlainZeros) →
          (∀ stream, lastMerged? stream other = lastMerged? stream history) →
            (s.mergeAll other).text = (s.mergeAll history).text) := by
  refine ⟨ofText_text hs, fun t ht => ⟨text_eq_iff hs ht, same_iff⟩, sameEntry_mergeAll s history,
    ?_, fun hzeros hplain => ⟨get?_mergeAll hzeros hplain, ?_⟩⟩
  · rintro before m after rfl
    obtain ⟨hbefore, hrest⟩ := List.forall_mem_append.mp hhistory
    rw [mergeAll_concat]
    exact changes_iff (hs.mergeAll hbefore) (hrest m List.mem_cons_self)
  · intro other hother hlast
    exact congrArg text (mergeAll_congr hzeros hplain hother hlast)

namespace HistoryExample

/-- A state as a caller may hand it in: one stream has an entry without content. -/
def start : SyncState :=
  ⟨⟨[("orders", []), ("users", [("at", .nat 10)])], by decide⟩⟩

/-- Nested state with both kinds of numbers. -/
def partitions : Object :=
  [("parts", .array [.object [("a", .number (.real ⟨false, 0x4004000000000000, by decide⟩))]]),
    ("version", .int (-2))]

/-- Merges without content, of new and of changed state, and of the same state again. -/
def merges : List (String × Object) :=
  [("orders", []), ("events", partitions), ("users", [("at", .nat 11)]),
    ("users", [("at", .nat 20)]), ("events", partitions)]

/-- Fewer merges, in another order, that end alike. -/
def others : List (String × Object) :=
  [("users", [("at", .nat 20)]), ("events", partitions)]

theorem legible : start.Legible ∧ ∀ m ∈ merges, (Value.object m.2).Legible := by
  have hpair : ∀ {k l : String} {v w : Value}, k < l → Table.Sorted [(k, v), (l, w)] :=
    fun hless => List.pairwise_pair.mpr hless
  have hsingle : ∀ {k : String} {v : Value}, Table.Sorted [(k, v)] := List.pairwise_singleton _ _
  have hparts : (Value.object partitions).Ordered :=
    ⟨hpair (by decide), ⟨⟨hsingle, trivial, trivial⟩, trivial⟩, trivial, trivial⟩
  have hmark : ∀ n, (Value.object [("at", .nat n)]).Ordered := fun _ => ⟨hsingle, trivial, trivial⟩
  have hempty : (Value.object []).Ordered := ⟨List.Pairwise.nil, trivial⟩
  have hstart : ∀ e ∈ start.streams, (Value.object e.2).Ordered := by
    simp [start, hmark, hempty]
  have hmerges : ∀ m ∈ merges, (Value.object m.2).Ordered := by
    simp [merges, hparts, hmark, hempty]
  have hread : (∀ e ∈ start.streams.entries, ∀ n ∈ (Value.object e.2).numbers, n.ReadsBack) ∧
      ∀ m ∈ merges, ∀ n ∈ (Value.object m.2).numbers, n.ReadsBack := by
    decide +kernel
  exact ⟨fun e he => ⟨hstart e he, fun x => hread.1 e he (.real x)⟩,
    fun m hm => ⟨hmerges m hm, fun x => hread.2 m hm (.real x)⟩⟩

theorem plainZeros : start.toJson.PlainZeros ∧ (∀ m ∈ merges, (Value.object m.2).PlainZeros) ∧
    ∀ m ∈ others, (Value.object m.2).PlainZeros := by
  unfold Value.PlainZeros
  decide +kernel

theorem lastMerged?_others (stream : String) :
    lastMerged? stream others = lastMerged? stream merges := by
  by_cases hevents : "events" = stream
  · simp [lastMerged?, others, merges, ← hevents, partitions]
  · by_cases husers : "users" = stream <;>
      simp [lastMerged?, others, merges, hevents, husers]

end HistoryExample

open HistoryExample in
/-- Merges into a state that was handed in. -/
theorem text_follows_history_merges :
    start.Legible ∧ (∀ m ∈ merges, (Value.object m.2).Legible) ∧
      ofText start.text = .ok start ∧
      (start.mergeAll merges).get? "users" = some [("at", .nat 20)] ∧
      (start.mergeAll merges).get? "orders" = some [] ∧
      (start.mergeAll others).text = (start.mergeAll merges).text := by
  obtain ⟨hstart, hmerges⟩ := legible
  obtain ⟨hzeros, hplain, hother⟩ := plainZeros
  obtain ⟨hread, -, -, -, hexact⟩ := text_follows_history hstart hmerges
  obtain ⟨hget, htext⟩ := hexact hzeros hplain
  exact ⟨hstart, hmerges, hread (by decide +kernel), hget "users", hget "orders",
    htext others hother lastMerged?_others⟩

end SyncState

end SourceSync
