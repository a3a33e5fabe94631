/-
Mending a source. One source mends another if it does the same wherever the other
does not fail. A read of the better source goes through the same streams in the
same way and emits everything that a read of the faulty one emits before its
first fault.
-/
import SourceSync.Proofs.Sync.Chapter

namespace SourceSync

open Json Sync

variable {ω : Type}

/-- The same reading, or one that yields the same up to some fault. -/
def Reading.Mends (better faulty : Reading ω) : Prop :=
  better = faulty ∨ ∃ before f world after,
    faulty.pulls = before ++ ⟨.fault f, world⟩ :: after ∧ before <+: better.pulls

/-- A fold that does the same wherever the other one does not fail. -/
structure Incremental.Mends (better faulty : Incremental) : Prop where
  continuous : better.continuous = faulty.continuous
  fold : ∀ {folds : Nat} {cursor r folded : Object},
    faulty.fold folds cursor r = .ok folded → better.fold folds cursor r = .ok folded

/-- A stream that does the same wherever the other one does not fail. -/
structure DataStream.Mends (better faulty : DataStream ω) : Prop where
  name : better.name = faulty.name
  incremental : Option.Rel Incremental.Mends better.incremental faulty.incremental
  read : ∀ seed world, (better.read seed world).Mends (faulty.read seed world)

/-- A source that does the same wherever the other one does not fail. Streams that the
other one does not have may be found in it. -/
structure Source.Mends (config : Value) (better faulty : Source ω) : Prop where
  name : better.name = faulty.name
  streams : ∀ {streams : List (DataStream ω)}, faulty.streams config = .ok streams →
    ∃ mended, better.streams config = .ok mended ∧ ∀ {c s},
      Engine.lookup? streams c = some s → ∃ t, Engine.lookup? mended c = some t ∧ t.Mends s

theorem Reading.Mends.isPrefix {better faulty : Reading ω} (hmends : better.Mends faulty)
    {taken : List (Pull ω)} (htaken : taken <+: faulty.pulls)
    (hrecords : ∀ pull ∈ taken, ∃ r, pull.item = .record r) : taken <+: better.pulls := by
  rcases hmends with rfl | ⟨before, f, world, after, hsplit, hbefore⟩
  · exact htaken
  · have hfault : before ++ [⟨.fault f, world⟩] <+: faulty.pulls := by
      rw [hsplit]
      exact ⟨after, by simp⟩
    by_cases hlength : taken.length ≤ before.length
    · have hshort : before <+: faulty.pulls := (List.prefix_append _ _).trans hfault
      exact (List.prefix_of_prefix_length_le htaken hshort hlength).trans hbefore
    · -- A longer list of pulls would hold the fault.
      have hlonger : (before ++ [Pull.mk (.fault f) world]).length ≤ taken.length := by
        simp only [List.length_append, List.length_singleton]
        omega
      have hmem : ⟨.fault f, world⟩ ∈ taken :=
        (List.prefix_of_prefix_length_le hfault htaken hlonger).subset (by simp)
      obtain ⟨r, hrecord⟩ := hrecords _ hmem
      cases hrecord

/-- A reading that yields only records cannot be mended. -/
theorem Reading.Mends.eq_of_records {better faulty : Reading ω} (hmends : better.Mends faulty)
    (hrecords : ∀ pull ∈ faulty.pulls, ∃ r, pull.item = .record r) : better = faulty := by
  rcases hmends with rfl | ⟨before, f, world, after, hsplit, -⟩
  · rfl
  · obtain ⟨r, hrecord⟩ := hrecords ⟨.fault f, world⟩ (by simp [hsplit])
    cases hrecord

namespace Sync

def Engine.withSource (e : Engine ω) (source : Source ω) : Engine ω :=
  { e with source := source }

namespace Engine

variable {e : Engine ω} (source : Source ω) {name : String} {better faulty : Option Incremental}
  {s t : Position ω}

theorem Advances.mend (hmends : Option.Rel Incremental.Mends better faulty) {r : Object}
    {world : ω} {snapshot : List (Emission ω)}
    (hadvances : e.Advances name s r world faulty snapshot t) :
    (e.withSource source).Advances name s r world better snapshot t := by
  cases hadvances with
  | full =>
      cases hmends
      exact .full
  | folded hfold hdue =>
      cases hmends with
      | some hmends => exact .folded (hmends.fold hfold) (hmends.continuous ▸ hdue)
  | published hfold hdue =>
      cases hmends with
      | some hmends => exact .published (hmends.fold hfold) (hmends.continuous ▸ hdue)

theorem Takes.mend (hmends : Option.Rel Incremental.Mends better faulty)
    {taken : List (Pull ω)} {es : List (Emission ω)}
    (htakes : e.Takes name faulty s taken es t) :
    (e.withSource source).Takes name better s taken es t := by
  induction htakes with
  | nil s => exact .nil s
  | cons hadvances _ ih => exact .cons (hadvances.mend source hmends) ih

theorem Takes.records {taken : List (Pull ω)} {es : List (Emission ω)}
    (htakes : e.Takes name faulty s taken es t) : ∀ pull ∈ taken, ∃ r, pull.item = .record r := by
  induction htakes with
  | nil s => simp
  | @cons s t u r world snapshot es rest _ _ ih =>
      intro pull hpull
      rcases List.mem_cons.mp hpull with rfl | hrest
      · exact ⟨r, rfl⟩
      · exact ih pull hrest

/-- A record is emitted before anything else happens. -/
theorem recordEmission_prefix (incremental : Option Incremental) (finish : ω) (r : Object)
    (world : ω) (rest : List (Pull ω)) :
    [e.recordEmission name r world] <+:
      (e.pullsFrom name incremental finish s (⟨.record r, world⟩ :: rest)).emissions := by
  rcases exists_advances e name s r world incremental with
    ⟨snapshot, t, hadvances⟩ | ⟨i, f, rfl, hfold⟩
  · rw [hadvances.pullsFrom_cons, Leg.after, List.cons_append]
    exact List.cons_prefix_cons.mpr ⟨rfl, List.nil_prefix⟩
  · exact ⟨[], by rw [pullsFrom_cons_of_error hfold, List.append_nil]⟩

section Stream

variable {better faulty : DataStream ω} {c : ConfiguredStream} {p q : Progress ω}

theorem tracking?_mend (hmends : better.Mends faulty) (c : ConfiguredStream) :
    Option.Rel Incremental.Mends (tracking? better c) (tracking? faulty c) := by
  unfold tracking?
  split
  · exact hmends.incremental
  · exact .none

theorem seed?_mend (hmends : better.Mends faulty) (c : ConfiguredStream) (p : Progress ω) :
    seed? (tracking? better c) p better.name = seed? (tracking? faulty c) p faulty.name := by
  have htracking := tracking?_mend hmends c
  rw [hmends.name]
  generalize tracking? better c = mended, tracking? faulty c = broken at htracking ⊢
  cases htracking <;> rfl

theorem entry_mend (hmends : better.Mends faulty) (c : ConfiguredStream) (p : Progress ω) :
    entry better c p = entry faulty c p := by
  rw [entry, seed?_mend hmends]
  rfl

theorem heading_mend (hmends : better.Mends faulty) (c : ConfiguredStream) (p : Progress ω) :
    (e.withSource source).heading better c p = e.heading faulty c p := by
  rw [heading, seed?_mend hmends, hmends.name]
  rfl

theorem readingFrom_mend (hmends : better.Mends faulty) (c : ConfiguredStream)
    (p : Progress ω) : (readingFrom better c p).Mends (readingFrom faulty c p) := by
  rw [readingFrom, entry_mend hmends]
  exact hmends.read _ _

theorem closingAt_mend {better faulty : Option Incremental}
    (hmends : Option.Rel Incremental.Mends better faulty) (finish : ω) :
    (e.withSource source).closingAt name better finish s =
      e.closingAt name faulty finish s := by
  cases hmends <;> rfl

/-- A stream that is read to its end is read alike when it is mended. -/
theorem leg_mend (hmends : better.Mends faulty) (hreached : (e.leg faulty c p).reached = .ok q) :
    (e.withSource source).leg better c p = e.leg faulty c p := by
  obtain ⟨taken, rest, es, t, hpulls, htakes, hend⟩ := leg_cases e faulty c p
  rcases hend with ⟨rfl, hleg⟩ | ⟨last, stop, world, -, hleg⟩
  · rw [List.append_nil] at hpulls
    have hreading : readingFrom better c p = readingFrom faulty c p :=
      (readingFrom_mend hmends c p).eq_of_records (hpulls ▸ htakes.records)
    have hbetter := htakes.mend source (tracking?_mend hmends c)
    rw [hleg, leg_eq, hreading, entry_mend hmends, heading_mend source hmends, hmends.name, hpulls,
      ← List.append_nil taken, hbetter.pullsFrom_append, Leg.after_after]
    exact congrArg (Leg.after _) (closingAt_mend source (tracking?_mend hmends c) _)
  · rw [hleg] at hreached
    cases hreached

/-- What is emitted for a stream up to a fault is also emitted when it is mended. -/
theorem leg_mend_prefix (hmends : better.Mends faulty) {taken rest : List (Pull ω)}
    {es last : List (Emission ω)} {f : Fault} {world : ω}
    (hpulls : (readingFrom faulty c p).pulls = taken ++ rest)
    (htakes : e.Takes faulty.name (tracking? faulty c) (entry faulty c p) taken es t)
    (hhalts : e.Halts faulty.name (tracking? faulty c) t rest last (.fault f) world) :
    e.heading faulty c p ++ es ++ last <+: ((e.withSource source).leg better c p).emissions := by
  have hreading := readingFrom_mend hmends c p
  have hbetter := htakes.mend source (tracking?_mend hmends c)
  rw [leg_eq, heading_mend source hmends, entry_mend hmends, hmends.name, Leg.after,
    List.append_assoc]
  refine (List.prefix_append_right_inj _).mpr ?_
  cases hhalts with
  | fault _ _ after =>
      have hbegins : taken <+: (readingFrom better c p).pulls :=
        hreading.isPrefix ⟨_, hpulls.symm⟩ htakes.records
      obtain ⟨more, hmore⟩ := hbegins
      rw [← hmore, hbetter.pullsFrom_append, List.append_nil]
      exact List.prefix_append _ _
  | @fold i r _ _ after _ _ =>
      have hrecords : ∀ pull ∈ taken ++ [⟨.record r, world⟩], ∃ r, pull.item = .record r := by
        intro pull hpull
        rcases List.mem_append.mp hpull with htaken | hlast
        · exact htakes.records pull htaken
        · rw [List.mem_singleton.mp hlast]
          exact ⟨r, rfl⟩
      have hbegins : taken ++ [⟨.record r, world⟩] <+: (readingFrom better c p).pulls :=
        hreading.isPrefix ⟨after, by rw [hpulls, List.append_assoc]; rfl⟩ hrecords
      obtain ⟨more, hmore⟩ := hbegins
      rw [← hmore, List.append_assoc, hbetter.pullsFrom_append]
      refine (List.prefix_append_right_inj _).mpr ?_
      exact recordEmission_prefix (e := e.withSource source) _ _ r world more

end Stream

theorem ReadsAll.mend {streams mended : List (DataStream ω)}
    (hmended : ∀ {c s}, lookup? streams c = some s → ∃ t, lookup? mended c = some t ∧ t.Mends s)
    {p q : Progress ω} {done : List ConfiguredStream} {es : List (Emission ω)}
    (hdone : e.ReadsAll streams p done es q) :
    (e.withSource source).ReadsAll mended p done es q := by
  induction hdone with
  | nil p => exact .nil p
  | @cons p q u c s done es hlookup hreached _ ih =>
      obtain ⟨t, hfound, hmends⟩ := hmended hlookup
      have hleg := leg_mend source hmends hreached
      rw [← hleg]
      exact .cons hfound (hleg ▸ hreached) ih

end Engine

end Sync

end SourceSync
