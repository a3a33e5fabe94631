/-
A read, stream by stream. The chapters of a read are the chosen streams whose
reading has begun, each with what had been reached before it. The messages of a
read are its opening, the messages of its chapters and, if it came so far, its
finish.
-/
import SourceSync.Proofs.Sync.Leg

namespace SourceSync.Sync

open Json

variable {ω : Type}

/-- What has been reached before the first stream. -/
def Progress.initial (state : Option SyncState) (world : ω) : Progress ω :=
  ⟨state.getD .empty, .zero, ∅, world⟩

/-- A read that was stopped has not come to its end. -/
theorem Ending.ofStop_ne_finished (context : String) (stop : Stop) (o : Outcome) :
    Ending.ofStop context stop ≠ .finished o := by
  cases stop <;> exact nofun

/-- A chosen stream whose reading has begun, and what had been reached before. -/
structure Chapter (ω : Type) where
  choice : ConfiguredStream
  stream : DataStream ω
  start : Progress ω

namespace Chapter

variable (e : Engine ω) (ch : Chapter ω)

/-- The part of the read that belongs to the chapter. -/
def leg : Leg ω := e.leg ch.stream ch.choice ch.start

def messages : List Message := messagesOf (ch.leg e).emissions

end Chapter

namespace Engine

/-- The source's stream with a name: the first one listed. -/
def lookup? (streams : List (DataStream ω)) (c : ConfiguredStream) : Option (DataStream ω) :=
  streams.find? (fun s => s.name == c.stream.name)

def opening (e : Engine ω) : Message :=
  e.info s!"Starting syncing {e.source.name}"

def finish (e : Engine ω) : Message :=
  e.info s!"Finished syncing {e.source.name}"

/-- The chapters of a read of the chosen streams behind what has been reached. -/
def chapters (e : Engine ω) (streams : List (DataStream ω)) :
    Progress ω → List ConfiguredStream → List (Chapter ω)
  | _, [] => []
  | p, c :: rest =>
    match lookup? streams c with
    | none => []
    | some s =>
      ⟨c, s, p⟩ ::
        match (e.leg s c p).reached with
        | .error _ => []
        | .ok q => e.chapters streams q rest

variable (e : Engine ω) (streams : List (DataStream ω))

def messagesIn (chapters : List (Chapter ω)) : List Message :=
  chapters.flatMap (Chapter.messages e)

section Cons

variable {e streams} {p q : Progress ω} {c : ConfiguredStream} {s : DataStream ω}

theorem legs_cons_of_none (rest : List ConfiguredStream) (hlookup : lookup? streams c = none) :
    e.legs streams p (c :: rest) =
      ⟨[], .failed (streamContext c.stream.name) (.streamNotFound c.stream.name), p.world⟩ := by
  rw [lookup?] at hlookup
  simp only [legs, hlookup]

theorem legs_cons_of_error (rest : List ConfiguredStream) (hlookup : lookup? streams c = some s)
    {stop : Stop} {world : ω} (hstop : (e.leg s c p).reached = .error (stop, world)) :
    e.legs streams p (c :: rest) =
      ⟨(e.leg s c p).emissions, .ofStop (streamContext c.stream.name) stop, world⟩ := by
  rw [lookup?] at hlookup
  simp only [legs, hlookup, hstop]

theorem legs_cons_of_ok (rest : List ConfiguredStream) (hlookup : lookup? streams c = some s)
    (hreached : (e.leg s c p).reached = .ok q) :
    e.legs streams p (c :: rest) =
      Script.after (e.leg s c p).emissions (e.legs streams q rest) := by
  rw [lookup?] at hlookup
  simp only [legs, hlookup, hreached]

/-- What is emitted for the first stream comes first. -/
theorem leg_prefix_legs (rest : List ConfiguredStream) (hlookup : lookup? streams c = some s) :
    (e.leg s c p).emissions <+: (e.legs streams p (c :: rest)).emissions := by
  cases hreached : (e.leg s c p).reached with
  | error stopped =>
      have hlegs := legs_cons_of_error rest hlookup hreached
      exact hlegs ▸ List.prefix_rfl
  | ok q =>
      rw [legs_cons_of_ok rest hlookup hreached]
      exact List.prefix_append _ _

theorem chapters_cons_of_none (rest : List ConfiguredStream)
    (hlookup : lookup? streams c = none) : e.chapters streams p (c :: rest) = [] := by
  simp only [chapters, hlookup]

theorem chapters_cons_of_error (rest : List ConfiguredStream)
    (hlookup : lookup? streams c = some s) {stop : Stop × ω}
    (hstop : (e.leg s c p).reached = .error stop) :
    e.chapters streams p (c :: rest) = [⟨c, s, p⟩] := by
  simp only [chapters, hlookup, hstop]

theorem chapters_cons_of_ok (rest : List ConfiguredStream) (hlookup : lookup? streams c = some s)
    (hreached : (e.leg s c p).reached = .ok q) :
    e.chapters streams p (c :: rest) = ⟨c, s, p⟩ :: e.chapters streams q rest := by
  simp only [chapters, hlookup, hreached]

end Cons

/-- The chapters belong to the first chosen streams, in their order. -/
theorem chapters_choices_isPrefix (p : Progress ω) (choices : List ConfiguredStream) :
    (e.chapters streams p choices).map Chapter.choice <+: choices := by
  induction choices generalizing p with
  | nil => exact List.prefix_rfl
  | cons c rest ih =>
      cases hlookup : lookup? streams c with
      | none =>
          rw [chapters_cons_of_none rest hlookup]
          exact List.nil_prefix
      | some s =>
          cases hreached : (e.leg s c p).reached with
          | error stop =>
              rw [chapters_cons_of_error rest hlookup hreached]
              exact List.cons_prefix_cons.mpr ⟨rfl, List.nil_prefix⟩
          | ok q =>
              rw [chapters_cons_of_ok rest hlookup hreached]
              exact List.cons_prefix_cons.mpr ⟨rfl, ih q⟩

theorem lookup?_of_mem_chapters {p : Progress ω} {choices : List ConfiguredStream}
    {ch : Chapter ω} (hch : ch ∈ e.chapters streams p choices) :
    lookup? streams ch.choice = some ch.stream := by
  induction choices generalizing p with
  | nil => cases hch
  | cons c rest ih =>
      cases hlookup : lookup? streams c with
      | none => rw [chapters_cons_of_none rest hlookup] at hch; cases hch
      | some s =>
          cases hreached : (e.leg s c p).reached with
          | error stop =>
              rw [chapters_cons_of_error rest hlookup hreached] at hch
              rw [List.mem_singleton.mp hch]
              exact hlookup
          | ok q =>
              rw [chapters_cons_of_ok rest hlookup hreached] at hch
              rcases List.mem_cons.mp hch with rfl | hrest
              · exact hlookup
              · exact ih hrest

section ReadsAll

/-- The chosen streams are read to their end one after another. -/
inductive ReadsAll :
    Progress ω → List ConfiguredStream → List (Emission ω) → Progress ω → Prop where
  | nil (p : Progress ω) : ReadsAll p [] [] p
  | cons {p q u : Progress ω} {c : ConfiguredStream} {s : DataStream ω}
      {rest : List ConfiguredStream} {es : List (Emission ω)}
      (hlookup : lookup? streams c = some s) (hreached : (e.leg s c p).reached = .ok q)
      (hrest : ReadsAll q rest es u) : ReadsAll p (c :: rest) ((e.leg s c p).emissions ++ es) u

variable {e streams}

theorem ReadsAll.legs_append {p q : Progress ω} {done : List ConfiguredStream}
    {es : List (Emission ω)} (hdone : e.ReadsAll streams p done es q)
    (rest : List ConfiguredStream) :
    e.legs streams p (done ++ rest) = Script.after es (e.legs streams q rest) := by
  induction hdone with
  | nil p => rfl
  | @cons p q u c s done es hlookup hreached _ ih =>
      rw [List.cons_append, legs_cons_of_ok _ hlookup hreached, ih]
      simp only [Script.after, List.append_assoc]

variable (e streams) in
/-- Streams are read to their end until all are, or one is not found or stops. -/
theorem exists_readsAll (p : Progress ω) (choices : List ConfiguredStream) :
    ∃ done rest es q, choices = done ++ rest ∧ e.ReadsAll streams p done es q ∧
      (rest = [] ∨ ∃ c later, rest = c :: later ∧
        (lookup? streams c = none ∨
          ∃ s stop, lookup? streams c = some s ∧ (e.leg s c q).reached = .error stop)) := by
  induction choices generalizing p with
  | nil => exact ⟨[], [], [], p, rfl, .nil p, Or.inl rfl⟩
  | cons c choices ih =>
      cases hlookup : lookup? streams c with
      | none => exact ⟨[], _, [], p, rfl, .nil p, Or.inr ⟨c, choices, rfl, Or.inl hlookup⟩⟩
      | some s =>
          cases hreached : (e.leg s c p).reached with
          | error stop =>
              exact ⟨[], _, [], p, rfl, .nil p,
                Or.inr ⟨c, choices, rfl, Or.inr ⟨s, stop, hlookup, hreached⟩⟩⟩
          | ok q =>
              obtain ⟨done, rest, es, u, rfl, hdone, hend⟩ := ih q
              exact ⟨c :: done, rest, _, u, rfl, .cons hlookup hreached hdone, hend⟩

end ReadsAll

/-- Behind its chapters a read emits at most its finish. -/
theorem legs_messages (p : Progress ω) (choices : List ConfiguredStream) :
    ∃ ending, messagesOf (e.legs streams p choices).emissions =
        e.messagesIn (e.chapters streams p choices) ++ ending ∧
      (ending = [] ∨ ending = [e.finish]) := by
  induction choices generalizing p with
  | nil => exact ⟨[e.finish], rfl, Or.inr rfl⟩
  | cons c rest ih =>
      cases hlookup : lookup? streams c with
      | none =>
          rw [legs_cons_of_none rest hlookup, chapters_cons_of_none rest hlookup]
          exact ⟨[], rfl, Or.inl rfl⟩
      | some s =>
          cases hreached : (e.leg s c p).reached with
          | error stopped =>
              obtain ⟨stop, world⟩ := stopped
              rw [legs_cons_of_error rest hlookup hreached,
                chapters_cons_of_error rest hlookup hreached]
              refine ⟨[], ?_, Or.inl rfl⟩
              simp [messagesIn, Chapter.messages, Chapter.leg]
          | ok q =>
              obtain ⟨ending, hmessages, hending⟩ := ih q
              rw [legs_cons_of_ok rest hlookup hreached,
                chapters_cons_of_ok rest hlookup hreached]
              refine ⟨ending, ?_, hending⟩
              simp [Script.after, hmessages, messagesIn, Chapter.messages, Chapter.leg]

theorem script_of_error {config : Value} {catalog : ConfiguredCatalog} {state : Option SyncState}
    {world : ω} {stop : Stop} (hstreams : e.source.streams config = .error stop) :
    e.script config catalog state world =
      ⟨[⟨e.opening, world, none⟩],
        .ofStop s!"Failed to resolve the streams of {e.source.name}" stop, world⟩ := by
  simp only [script, hstreams]
  rfl

theorem script_of_ok {config : Value} {catalog : ConfiguredCatalog} {state : Option SyncState}
    {world : ω} {streams : List (DataStream ω)} (hstreams : e.source.streams config = .ok streams) :
    e.script config catalog state world =
      Script.after [⟨e.opening, world, none⟩]
        (e.legs streams (.initial state world) catalog.streams) := by
  simp only [script, hstreams]
  rfl

theorem opening_prefix_script (config : Value) (catalog : ConfiguredCatalog)
    (state : Option SyncState) (world : ω) :
    [e.opening] <+: messagesOf (e.script config catalog state world).emissions := by
  cases hstreams : e.source.streams config with
  | error stop =>
      rw [script_of_error e hstreams]
      exact List.prefix_rfl
  | ok streams =>
      rw [script_of_ok e hstreams]
      exact List.prefix_append _ _

end Engine

end SourceSync.Sync
