/-
When cursor state is published. The records of a stream are numbered from one, anew
for every chapter. Behind the `N`-th record of an incremental read a snapshot follows
exactly if the record was folded, the stream publishes continuously and `N` is a
multiple of a positive interval; behind the last record of a stream that came to its
end one more follows exactly if there is cursor state. Nothing else is published. So
a read that is broken off has never emitted more than an interval of records that no
snapshot covers.
-/
import SourceSync.Proofs.Sync.Marks

namespace SourceSync

open Json

/-- A snapshot is due behind the `n`-th record. -/
def CheckpointPolicy.Due (p : CheckpointPolicy) (continuous : Bool) (n : Nat) : Prop :=
  continuous = true ∧ 0 < p.interval ∧ p.interval ∣ n

instance (p : CheckpointPolicy) (continuous : Bool) (n : Nat) : Decidable (p.Due continuous n) :=
  inferInstanceAs (Decidable (_ ∧ _ ∧ _))

theorem CheckpointPolicy.isDue_succ_iff (p : CheckpointPolicy) (continuous : Bool) (n : Nat) :
    p.isDue continuous (n + 1) = true ↔ p.Due continuous (n + 1) := by
  simp [isDue_iff, Due, Nat.dvd_iff_mod_eq_zero]

namespace Sync

variable {ω : Type}

/-- The marks of records that are folded one after another when `n` were folded before:
each record, and a snapshot behind it if one is due. -/
def cadence (p : CheckpointPolicy) (continuous : Bool) (name : String) (n : Nat)
    (records : List Object) : List Mark :=
  (records.zipIdx (n + 1)).flatMap (fun numbered =>
    .record name numbered.1 :: if p.Due continuous numbered.2 then [.snapshot] else [])

section Cadence

variable {p : CheckpointPolicy} {continuous : Bool} {name : String}

theorem cadence_cons (n : Nat) (r : Object) (records : List Object) :
    cadence p continuous name n (r :: records) =
      .record name r :: ((if p.Due continuous (n + 1) then [.snapshot] else []) ++
        cadence p continuous name (n + 1) records) := by
  simp [cadence, List.zipIdx_cons]

theorem cadence_concat_isPrefix (n : Nat) (records : List Object) (r : Object) :
    cadence p continuous name n records ++ [.record name r] <+:
      cadence p continuous name n (records ++ [r]) := by
  induction records generalizing n with
  | nil => exact List.cons_prefix_cons.mpr ⟨rfl, List.nil_prefix⟩
  | cons first rest ih =>
      rw [List.cons_append, cadence_cons, cadence_cons, List.cons_append, List.append_assoc]
      exact List.cons_prefix_cons.mpr ⟨rfl, (List.prefix_append_right_inj _).mpr (ih (n + 1))⟩

/-- A full read, or one that publishes only at the end, has only records. -/
theorem cadence_false (n : Nat) (records : List Object) :
    cadence p false name n records = records.map (.record name) := by
  induction records generalizing n with
  | nil => rfl
  | cons r rest ih => rw [cadence_cons, ih, if_neg (by simp [CheckpointPolicy.Due])]; rfl

theorem eq_nil_of_prefix_snapshot {mid rest : List Mark} (hmid : mid <+: .snapshot :: rest)
    (hnone : Mark.snapshot ∉ mid) : mid = [] := by
  cases mid with
  | nil => rfl
  | cons first mid =>
      obtain ⟨rfl, -⟩ := List.cons_prefix_cons.mp hmid
      exact absurd List.mem_cons_self hnone

theorem succ_mod_of_not_dvd {k n : Nat} (hndvd : ¬ k ∣ n + 1) (hless : n % k < k) :
    (n + 1) % k = n % k + 1 := by
  have hne : n % k + 1 ≠ k := fun heq =>
    hndvd (Nat.dvd_of_mod_eq_zero (by rw [← Nat.mod_add_mod, heq, Nat.mod_self]))
  rw [← Nat.mod_add_mod, Nat.mod_eq_of_lt (by omega)]

/-- The records from a place on, up to the next snapshot, are not more than are missing
to the next multiple of the interval. -/
theorem length_le_of_prefix_cadence (hinterval : 0 < p.interval) {n : Nat}
    {records : List Object} {mid : List Mark} (hmid : mid <+: cadence p true name n records)
    (hnone : Mark.snapshot ∉ mid) : mid.length ≤ p.interval - n % p.interval := by
  induction records generalizing n mid with
  | nil => simp [List.prefix_nil.mp hmid]
  | cons r rest ih =>
      have hless : n % p.interval < p.interval := Nat.mod_lt n hinterval
      rw [cadence_cons] at hmid
      cases mid with
      | nil => exact Nat.zero_le _
      | cons first mid =>
          have hmid := (List.cons_prefix_cons.mp hmid).2
          have hnone : Mark.snapshot ∉ mid := fun hmem => hnone (List.mem_cons_of_mem _ hmem)
          -- A due snapshot comes next, so the stretch ends here; otherwise one fewer is missing.
          by_cases hdue : p.Due true (n + 1)
          · rw [if_pos hdue] at hmid
            rw [eq_nil_of_prefix_snapshot hmid hnone, List.length_singleton]
            omega
          · rw [if_neg hdue, List.nil_append] at hmid
            have hrest := ih hmid hnone
            have hndvd : ¬ p.interval ∣ n + 1 := fun hdvd => hdue ⟨rfl, hinterval, hdvd⟩
            have hsucc := succ_mod_of_not_dvd hndvd hless
            rw [List.length_cons]
            omega

/-- Between two snapshots there are not more records than the interval. -/
theorem length_le_of_infix_cadence (hinterval : 0 < p.interval) {n : Nat}
    {records : List Object} {mid : List Mark} (hmid : mid <:+: cadence p true name n records)
    (hnone : Mark.snapshot ∉ mid) : mid.length ≤ p.interval := by
  induction records generalizing n with
  | nil => simp [List.infix_nil.mp hmid]
  | cons r rest ih =>
      -- The stretch begins with this record or lies behind it.
      rcases List.infix_cons_iff.mp (cadence_cons n r rest ▸ hmid) with hbegins | hinside
      · have hlength := length_le_of_prefix_cadence hinterval
          (cadence_cons n r rest ▸ hbegins) hnone
        exact Nat.le_trans hlength (Nat.sub_le _ _)
      · by_cases hdue : p.Due true (n + 1)
        · rw [if_pos hdue] at hinside
          rcases List.infix_cons_iff.mp hinside with hbegins | hinside
          · rw [eq_nil_of_prefix_snapshot hbegins hnone]
            exact Nat.zero_le _
          · exact ih hinside
        · rw [if_neg hdue, List.nil_append] at hinside
          exact ih hinside

end Cadence

namespace Engine

variable {e : Engine ω} {name : String} {incremental : Option Incremental} {s t : Position ω}
  {taken : List (Pull ω)} {es : List (Emission ω)}

/-- The marks of one record: itself, and a snapshot if one is due. -/
theorem Advances.marks_eq {r : Object} {world : ω} {snapshot : List (Emission ω)}
    (hadvances : e.Advances name s r world incremental snapshot t) :
    Sync.marks (messagesOf (e.recordEmission name r world :: snapshot)) =
      .record name r ::
        (if e.policy.Due (incremental.any Incremental.continuous) (s.records + 1)
          then [.snapshot] else []) := by
  cases hadvances with
  | full => rfl
  | @folded i cursor hfold hdue =>
      have hnone : ¬ e.policy.Due i.continuous (s.records + 1) := by
        rw [← CheckpointPolicy.isDue_succ_iff, hdue]
        exact Bool.false_ne_true
      exact congrArg (Mark.record name r :: ·) (if_neg hnone).symm
  | @published i cursor hfold hdue =>
      have hsome := (e.policy.isDue_succ_iff i.continuous s.records).mp hdue
      exact congrArg (Mark.record name r :: ·) (if_pos hsome).symm

theorem Takes.marks_eq (htakes : e.Takes name incremental s taken es t) :
    Sync.marks (messagesOf es) =
      cadence e.policy (incremental.any Incremental.continuous) name s.records
        (recordsOf taken) := by
  induction htakes with
  | nil s => rfl
  | @cons s t u r world snapshot es rest hadvances _ ih =>
      rw [messagesOf_append, marks_append, hadvances.marks_eq, ih, hadvances.records_eq,
        recordsOf_cons_record, cadence_cons, List.cons_append]

/-- The records taken are folded into the cursor. -/
theorem Takes.folded {i : Incremental} (htakes : e.Takes name (some i) s taken es t) :
    i.foldAll (s.progress.foldCount name) s.cursor (recordsOf taken) = .ok t.cursor ∧
      t.progress.foldCount name = s.progress.foldCount name + (recordsOf taken).length := by
  induction htakes with
  | nil s => exact ⟨rfl, rfl⟩
  | @cons s t u r world snapshot es rest hadvances _ ih =>
      have hfold : i.fold (s.progress.foldCount name) s.cursor r = .ok t.cursor ∧
          t.progress.foldCount name = s.progress.foldCount name + 1 := by
        cases hadvances with
        | folded hfold hdue => exact ⟨hfold, Progress.foldCount_addFold _ name⟩
        | published hfold hdue => exact ⟨hfold, Progress.foldCount_addFold _ name⟩
      rw [hfold.2] at ih
      rw [recordsOf_cons_record, Incremental.foldAll, hfold.1, List.length_cons]
      exact ⟨ih.1, by omega⟩

end Engine

namespace Chapter

open Engine

/-- The cursor state that the stream is read from. -/
def seed (ch : Chapter ω) : Object :=
  (entry ch.stream ch.choice ch.start).cursor

def items (ch : Chapter ω) : List Item :=
  (ch.stream.read ch.seed ch.start.world).pulls.map Pull.item

/-- How often the stream has folded a record before. -/
def folds (ch : Chapter ω) : Nat :=
  ch.start.foldCount ch.stream.name

/-- The marks of a full read: the records up to the end or to the first item that is none. -/
def Plain (ch : Chapter ω) (ms : List Mark) : Prop :=
  ∃ (records : List Object) (rest : List Item), ch.items = records.map .record ++ rest ∧
    (∀ r, rest.head? ≠ some (.record r)) ∧ ms = records.map (.record ch.stream.name)

/-- The marks of an incremental read. -/
inductive Paced (e : Engine ω) (ch : Chapter ω) (i : Incremental) : List Mark → Prop where
  /-- The stream came to its end. A last snapshot is published if there is cursor state. -/
  | ended {records : List Object} {cursor : Object} (hitems : ch.items = records.map .record)
      (hfolded : i.foldAll ch.folds ch.seed records = .ok cursor) :
      Paced e ch i (cadence e.policy i.continuous ch.stream.name 0 records ++
        if cursor = [] then [] else [.snapshot])
  /-- The stream failed or broke down. -/
  | halted {records : List Object} {cursor : Object} {item : Item} {later : List Item}
      (hitems : ch.items = records.map .record ++ item :: later) (hitem : item.record? = none)
      (hfolded : i.foldAll ch.folds ch.seed records = .ok cursor) :
      Paced e ch i (cadence e.policy i.continuous ch.stream.name 0 records)
  /-- A record could not be folded. -/
  | unfolded {records : List Object} {cursor r : Object} {stop : Stop} {later : List Item}
      (hitems : ch.items = records.map .record ++ .record r :: later)
      (hfolded : i.foldAll ch.folds ch.seed records = .ok cursor)
      (hfold : i.fold (ch.folds + records.length) cursor r = .error stop) :
      Paced e ch i (cadence e.policy i.continuous ch.stream.name 0 records ++
        [.record ch.stream.name r])

variable {e : Engine ω} {ch : Chapter ω}

theorem marks_heading (stream : DataStream ω) (c : ConfiguredStream) (p : Progress ω) :
    marks (messagesOf (e.heading stream c p)) = [] :=
  marks_of_quiet (e.heading_quiet stream c p)

variable (e ch) in
/-- A chapter has the marks of the records taken, and behind them those of the closing or
of a halt. -/
theorem exists_takes_marks :
    ∃ taken rest es t, ch.items = (recordsOf taken).map .record ++ rest.map Pull.item ∧
      e.Takes ch.stream.name (tracking? ch.stream ch.choice)
        (entry ch.stream ch.choice ch.start) taken es t ∧
      let before := cadence e.policy ((tracking? ch.stream ch.choice).any Incremental.continuous)
        ch.stream.name 0 (recordsOf taken)
      ((rest = [] ∧ ∃ finish, marks (ch.messages e) = before ++ marks (messagesOf
          (e.closingAt ch.stream.name (tracking? ch.stream ch.choice) finish t).emissions)) ∨
        ∃ last stop world,
          e.Halts ch.stream.name (tracking? ch.stream ch.choice) t rest last stop world ∧
          marks (ch.messages e) = before ++ marks (messagesOf last)) := by
  obtain ⟨taken, rest, es, t, hpulls, htakes, hend⟩ := leg_cases e ch.stream ch.choice ch.start
  have hitems : ch.items = (recordsOf taken).map .record ++ rest.map Pull.item := by
    rw [← htakes.items_eq, ← List.map_append, ← hpulls]
    rfl
  have hbody : marks (messagesOf (e.heading ch.stream ch.choice ch.start ++ es)) =
      cadence e.policy ((tracking? ch.stream ch.choice).any Incremental.continuous)
        ch.stream.name 0 (recordsOf taken) := by
    rw [messagesOf_append, marks_append, marks_heading, htakes.marks_eq]
    rfl
  refine ⟨taken, rest, es, t, hitems, htakes, ?_⟩
  rcases hend with ⟨rfl, hleg⟩ | ⟨last, stop, world, hhalts, hleg⟩
  · refine Or.inl ⟨rfl, (readingFrom ch.stream ch.choice ch.start).finish, ?_⟩
    rw [← hbody, ← marks_append, ← messagesOf_append, messages, leg, hleg]
    rfl
  · refine Or.inr ⟨last, stop, world, hhalts, ?_⟩
    rw [← hbody, ← marks_append, ← messagesOf_append, messages, leg, hleg]

theorem plain_of_untracked (hfull : tracking? ch.stream ch.choice = none) :
    ch.Plain (marks (ch.messages e)) := by
  obtain ⟨taken, rest, es, t, hitems, -, hend⟩ := exists_takes_marks e ch
  rw [hfull, Option.any_none, cadence_false] at hend
  rcases hend with ⟨rfl, finish, hmarks⟩ | ⟨last, stop, world, hhalts, hmarks⟩
  · rw [closingAt_of_unpublished e (Or.inl rfl)] at hmarks
    exact ⟨recordsOf taken, [], hitems, by simp, hmarks.trans (List.append_nil _)⟩
  · refine ⟨recordsOf taken, rest.map Pull.item, hitems, ?_, ?_⟩
    · intro r hhead
      cases hhalts with
      | fault f world rest => cases hhead
      | crash c world rest => cases hhead
      | fold world rest hincremental => cases hincremental
    · cases hhalts with
      | fault f world rest => exact hmarks.trans (List.append_nil _)
      | crash c world rest => exact hmarks.trans (List.append_nil _)
      | fold world rest hincremental => cases hincremental

theorem paced_of_tracked {i : Incremental} (htracked : tracking? ch.stream ch.choice = some i) :
    ch.Paced e i (marks (ch.messages e)) := by
  obtain ⟨taken, rest, es, t, hitems, htakes, hend⟩ := exists_takes_marks e ch
  rw [htracked] at htakes hend
  obtain ⟨hfolded, hfolds⟩ := htakes.folded
  rcases hend with ⟨rfl, finish, hmarks⟩ | ⟨last, stop, world, hhalts, hmarks⟩
  · have hall : ch.items = (recordsOf taken).map .record := hitems.trans (List.append_nil _)
    have hended := Paced.ended (e := e) hall hfolded
    by_cases hcursor : t.cursor = []
    · rw [closingAt_of_unpublished e (Or.inr hcursor)] at hmarks
      rw [if_pos hcursor] at hended
      exact hmarks ▸ hended
    · rw [closingAt_of_published e rfl hcursor] at hmarks
      rw [if_neg hcursor] at hended
      exact hmarks ▸ hended
  · rw [hmarks]
    cases hhalts with
    | fault f world rest =>
        rw [messagesOf_nil]
        exact List.append_nil _ ▸ .halted hitems rfl hfolded
    | crash c world rest =>
        rw [messagesOf_nil]
        exact List.append_nil _ ▸ .halted hitems rfl hfolded
    | @fold j r f world rest hincremental hfold =>
        cases hincremental
        rw [hfolds] at hfold
        exact .unfolded hitems hfolded hfold

/-- A stretch of an incremental read without a snapshot. -/
theorem Paced.length_le {i : Incremental} {ms mid : List Mark} (hpaced : ch.Paced e i ms)
    (hcontinuous : i.continuous = true) (hinterval : 0 < e.policy.interval) (hmid : mid <:+: ms)
    (hnone : Mark.snapshot ∉ mid) : mid.length ≤ e.policy.interval := by
  cases hpaced with
  | @ended records cursor hitems hfolded =>
      have hinside : mid <:+: cadence e.policy true ch.stream.name 0 records := by
        rw [hcontinuous] at hmid
        -- The last snapshot cannot be part of the stretch.
        split at hmid
        · rwa [List.append_nil] at hmid
        · rcases List.infix_concat_iff.mp hmid with hsuffix | hinside
          · rcases List.suffix_concat_iff.mp hsuffix with rfl | ⟨before, rfl, -⟩
            · exact List.nil_infix
            · exact absurd (List.mem_append_right before List.mem_cons_self) hnone
          · exact hinside
      exact length_le_of_infix_cadence hinterval hinside hnone
  | halted hitems hitem hfolded =>
      rw [hcontinuous] at hmid
      exact length_le_of_infix_cadence hinterval hmid hnone
  | @unfolded records cursor r f later hitems hfolded hfold =>
      rw [hcontinuous] at hmid
      exact length_le_of_infix_cadence hinterval
        (hmid.trans (cadence_concat_isPrefix 0 records r).isInfix) hnone

end Chapter

namespace Engine

variable (e : Engine ω) (streams : List (DataStream ω))

theorem marks_report (secrets : Secrets) (ending : Ending) :
    marks (ending.report secrets) = [] := by
  refine marks_of_quiet ?_
  intro m hm
  cases ending with
  | finished o => cases hm
  | crashed crash => cases hm
  | failed context f =>
      rw [(reportMessage?_eq_some (Option.mem_toList.mp hm)).2]
      exact ⟨rfl, rfl⟩

/-- Behind its chapters a read emits at most its finish and the log message for a fault. -/
theorem read_chapters {config : Value} {catalog : ConfiguredCatalog} {state : Option SyncState}
    {world : ω} (hstreams : e.source.streams config = .ok streams) :
    ∃ rest, (e.read config catalog state .unlimited world).messages = e.opening ::
        (e.messagesIn (e.chapters streams (.initial state world) catalog.streams) ++ rest) ∧
      marks rest = [] := by
  obtain ⟨hmessages, -, -⟩ := (e.script config catalog state world).perform_unlimited e.secrets
  obtain ⟨ending, hlegs, hending⟩ :=
    e.legs_messages streams (.initial state world) catalog.streams
  have hscript : messagesOf (e.script config catalog state world).emissions = e.opening ::
      (e.messagesIn (e.chapters streams (.initial state world) catalog.streams) ++ ending) := by
    rw [e.script_of_ok hstreams, ← hlegs]
    rfl
  refine ⟨ending ++ (e.script config catalog state world).ending.report e.secrets, ?_, ?_⟩
  · rw [read, hmessages, hscript]
    simp
  · rw [marks_append, marks_report]
    rcases hending with rfl | rfl <;> rfl

/-- When a read publishes, on a sink that takes everything. Its records and snapshots are
those of its chapters, one chosen stream after another, and in a chapter nothing else stands
between them. A stream that is read in full, or cannot be read otherwise, contributes no
snapshot; one that is read incrementally contributes exactly those that are due. Hence, in a
stream that publishes continuously, no stretch without a snapshot has more records than the
interval. -/
theorem read_paced (e : Engine ω) (config : Value) (catalog : ConfiguredCatalog)
    (state : Option SyncState) (world : ω) :
    let messages := (e.read config catalog state .unlimited world).messages
    (∀ stop, e.source.streams config = .error stop → marks messages = []) ∧
    ∀ streams, e.source.streams config = .ok streams →
      let chapters := e.chapters streams (.initial state world) catalog.streams
      chapters.map Chapter.choice <+: catalog.streams ∧
      (∃ rest, messages = e.opening :: (e.messagesIn chapters ++ rest) ∧ marks rest = []) ∧
      ∀ ch ∈ chapters, lookup? streams ch.choice = some ch.stream ∧
        ∃ resumed body closing, ch.Parts e resumed body closing ∧
          (ch.choice.mode = .fullRefresh ∨ ch.stream.incremental = none →
            ch.Plain (marks body)) ∧
          ∀ i, ch.choice.mode = .incremental → ch.stream.incremental = some i →
            ch.Paced e i (marks body) ∧
            (i.continuous = true → 0 < e.policy.interval →
              ∀ mid, mid <:+: ch.messages e → (∀ m ∈ mid, m.state? = none) →
                (recordsIn mid).length ≤ e.policy.interval) := by
  intro messages
  refine ⟨?_, ?_⟩
  · intro stop hstreams
    obtain ⟨hmessages, -, -⟩ :=
      (e.script config catalog state world).perform_unlimited e.secrets
    have hmessages : messages = messagesOf (e.script config catalog state world).emissions ++
        (e.script config catalog state world).ending.report e.secrets := hmessages
    rw [hmessages, marks_append, marks_report, e.script_of_error hstreams]
    rfl
  · intro streams hstreams chapters
    refine ⟨e.chapters_choices_isPrefix streams _ _, e.read_chapters streams hstreams, ?_⟩
    intro ch hch
    obtain ⟨resumed, body, closing, hparts⟩ := Chapter.exists_parts e ch
    refine ⟨e.lookup?_of_mem_chapters streams hch, resumed, body, closing, hparts, ?_, ?_⟩
    · intro hfull
      exact hparts.marks_eq ▸ Chapter.plain_of_untracked (tracking?_eq_none_iff.mpr hfull)
    · intro i hmode hincremental
      have htracked := tracking?_eq_some_iff.mpr ⟨hmode, hincremental⟩
      have hpaced : ch.Paced e i (marks (ch.messages e)) := Chapter.paced_of_tracked htracked
      refine ⟨hparts.marks_eq ▸ hpaced, ?_⟩
      intro hcontinuous hinterval mid hmid hstateless
      calc
        (recordsIn mid).length ≤ (marks mid).length := length_recordsIn_le mid
        _ ≤ e.policy.interval := hpaced.length_le hcontinuous hinterval (hmid.filterMap _)
          (snapshot_not_mem_marks hstateless)

end Engine

namespace CadenceExample

def latest : Incremental := ⟨.field "seq", true, true, fun _ _ r => .ok r⟩

def row (n : Nat) : Object := [("seq", Value.int n)]

def stream : DataStream Unit where
  name := "s"
  schema := defaultSchema
  incremental := some latest
  read _ _ := ⟨[1, 2, 3, 4].map (fun n => ⟨.record (row n), ()⟩), ()⟩

def engine : Engine Unit where
  source := ⟨"source", fun _ world => (.ok .passed, world), fun _ => .ok [stream]⟩
  secrets := .none
  policy := ⟨2⟩
  stamp := 0

def chapter : Chapter Unit where
  choice := ⟨stream.descriptor, .incremental, none⟩
  stream := stream
  start := .initial none ()

end CadenceExample

open CadenceExample in
/-- A stream that ends with a multiple of the interval publishes twice at its end. -/
theorem Engine.read_paced_multiple :
    engine.source.streams .null = .ok [stream] ∧
      chapter ∈ engine.chapters [stream] (.initial none ()) [chapter.choice] ∧
      ∃ resumed body closing, chapter.Parts engine resumed body closing ∧
        chapter.Paced engine latest (marks body) ∧
        marks body = [.record "s" (row 1), .record "s" (row 2), .snapshot, .record "s" (row 3),
          .record "s" (row 4), .snapshot, .snapshot] ∧
        ∀ mid, mid <:+: chapter.messages engine → (∀ m ∈ mid, m.state? = none) →
          (recordsIn mid).length ≤ 2 := by
  have hstreams : engine.source.streams .null = .ok [stream] := rfl
  have hchapter : chapter ∈ engine.chapters [stream] (.initial none ()) [chapter.choice] :=
    List.mem_cons_self
  obtain ⟨-, -, hchapters⟩ :=
    (engine.read_paced .null ⟨[chapter.choice]⟩ none ()).2 [stream] hstreams
  obtain ⟨-, resumed, body, closing, hparts, -, hpaced⟩ := hchapters chapter hchapter
  obtain ⟨hpaced, hlag⟩ := hpaced latest rfl rfl
  exact ⟨hstreams, hchapter, resumed, body, closing, hparts, hpaced, hparts.marks_eq.trans rfl,
    hlag rfl (by decide)⟩

end Sync

end SourceSync
