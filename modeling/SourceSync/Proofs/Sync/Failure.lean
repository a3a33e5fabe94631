/-
Reads that fail. A read can fail while the streams are resolved, when a chosen
stream is not found, at a pull and at a record that cannot be folded. What it has
emitted until then is what it would have emitted without the fault; behind that
there is only the log message for the fault.
-/
import SourceSync.Proofs.Sync.Mending
import SourceSync.Proofs.Sync.Published
import SourceSync.Proofs.Sync.Voice

namespace SourceSync.Sync

open Json

variable {ω : Type}

namespace Engine

section DueSnapshots

variable (e : Engine ω)

/-- Right before a snapshot a record was emitted, and a checkpoint was due after it. -/
def BehindDue (before : List Message) : Prop :=
  ∃ earlier r continuous, before = earlier ++ [.record r] ∧
    e.policy.isDue continuous (recordsIn before).length = true

variable {e} {name : String} {incremental : Option Incremental} {s t : Position ω}

theorem Advances.behindDue {r : Object} {world : ω} {snapshot : List (Emission ω)}
    (hadvances : e.Advances name s r world incremental snapshot t) {before : List Message}
    (hcount : (recordsIn before).length = s.records) :
    EverySnapshot (fun mid _ => e.BehindDue (before ++ mid))
        (messagesOf (e.recordEmission name r world :: snapshot)) ∧
      (recordsIn (before ++ messagesOf (e.recordEmission name r world :: snapshot))).length =
        t.records := by
  have hrecord : (recordsIn (before ++ [e.recordMessage name r])).length = s.records + 1 := by
    rw [recordsIn_append, List.length_append, hcount]
    rfl
  have hstateless : EverySnapshot (fun mid _ => e.BehindDue (before ++ mid))
      [e.recordMessage name r] := .of_stateless (by simp [recordMessage, Message.state?])
  cases hadvances with
  | full => exact ⟨hstateless, hrecord⟩
  | folded hfold hdue => exact ⟨hstateless, hrecord⟩
  | @published i cursor hfold hdue =>
      constructor
      · apply hstateless.concat
        exact ⟨before, _, i.continuous, rfl, hrecord ▸ hdue⟩
      · have hstate := recordsIn_concat_state (before ++ [e.recordMessage name r])
          (s.progress.aggregate.merge name cursor)
        rw [List.append_assoc] at hstate
        exact (congrArg List.length hstate).trans hrecord

theorem Takes.behindDue {taken : List (Pull ω)} {es : List (Emission ω)}
    (htakes : e.Takes name incremental s taken es t) {before : List Message}
    (hcount : (recordsIn before).length = s.records) :
    EverySnapshot (fun mid _ => e.BehindDue (before ++ mid)) (messagesOf es) := by
  induction htakes generalizing before with
  | nil s => exact .of_stateless (by simp)
  | cons hadvances _ ih =>
      obtain ⟨hsnapshots, hcount⟩ := hadvances.behindDue hcount
      rw [messagesOf_append]
      refine hsnapshots.append ?_
      simpa only [List.append_assoc] using ih hcount

end DueSnapshots

/-- A fault of a read: the choices up to the one that fails, the messages before it, the
messages of the stream that fails, the line the fault is logged under, and the fault. -/
inductive FaultAt (e : Engine ω) (config : Value) (catalog : ConfiguredCatalog)
    (state : Option SyncState) (world : ω) :
    List ConfiguredStream → List Message → List Message → String → Fault → Prop where
  /-- The streams are not resolved. -/
  | resolve {f : Fault} (hstreams : e.source.streams config = .error (.fault f)) :
      FaultAt e config catalog state world [] [e.opening] []
        s!"Failed to resolve the streams of {e.source.name}" f
  /-- A chosen stream is not found. -/
  | lookup {streams : List (DataStream ω)} {done later : List ConfiguredStream}
      {c : ConfiguredStream} {es : List (Emission ω)} {q : Progress ω}
      (hstreams : e.source.streams config = .ok streams)
      (hchoices : catalog.streams = done ++ c :: later)
      (hdone : e.ReadsAll streams (.initial state world) done es q)
      (hlookup : lookup? streams c = none) :
      FaultAt e config catalog state world (done ++ [c]) (e.opening :: messagesOf es) []
        (streamContext c.stream.name) (.streamNotFound c.stream.name)
  /-- A pull fails, or a record is emitted that cannot be folded. -/
  | reading {streams : List (DataStream ω)} {done later : List ConfiguredStream}
      {c : ConfiguredStream} {s : DataStream ω} {es mine last : List (Emission ω)}
      {q : Progress ω} {taken rest : List (Pull ω)} {t : Position ω} {f : Fault} {after : ω}
      (hstreams : e.source.streams config = .ok streams)
      (hchoices : catalog.streams = done ++ c :: later)
      (hdone : e.ReadsAll streams (.initial state world) done es q)
      (hlookup : lookup? streams c = some s)
      (hpulls : (readingFrom s c q).pulls = taken ++ rest)
      (htakes : e.Takes s.name (tracking? s c) (entry s c q) taken mine t)
      (hhalts : e.Halts s.name (tracking? s c) t rest last (.fault f) after) :
      FaultAt e config catalog state world (done ++ [c]) (e.opening :: messagesOf es)
        (messagesOf (e.heading s c q ++ mine ++ last)) (streamContext c.stream.name) f

variable {e : Engine ω} {config : Value} {catalog : ConfiguredCatalog}
  {state : Option SyncState} {world : ω} {begun : List ConfiguredStream}
  {earlier mine : List Message} {context : String} {f : Fault}

/-- The script of a read that fails ends at the fault. -/
theorem FaultAt.script
    (hfault : e.FaultAt config catalog state world begun earlier mine context f) :
    ∃ emissions after, e.script config catalog state world =
        ⟨emissions, .failed context f, after⟩ ∧ messagesOf emissions = earlier ++ mine := by
  cases hfault with
  | resolve hstreams => exact ⟨_, _, e.script_of_error hstreams, rfl⟩
  | @lookup streams done later c es q hstreams hchoices hdone hlookup =>
      refine ⟨⟨e.opening, world, none⟩ :: es, q.world, ?_, ?_⟩
      · rw [e.script_of_ok hstreams, hchoices, hdone.legs_append,
          legs_cons_of_none _ hlookup]
        simp [Script.after]
      · simp
  | @reading streams done later c s es mine last q taken rest t f after hstreams hchoices hdone
      hlookup hpulls htakes hhalts =>
      have hleg := leg_of_halts hpulls htakes hhalts
      have hreached : (e.leg s c q).reached = .error (.fault f, after) := by rw [hleg]
      refine ⟨⟨e.opening, world, none⟩ :: es ++ (e.heading s c q ++ mine ++ last), after, ?_, ?_⟩
      · rw [e.script_of_ok hstreams, hchoices, hdone.legs_append,
          legs_cons_of_error _ hlookup hreached, hleg]
        rfl
      · simp

theorem exists_faultAt_of_script {emissions : List (Emission ω)} {after : ω}
    (hscript : e.script config catalog state world = ⟨emissions, .failed context f, after⟩) :
    ∃ begun earlier mine,
      e.FaultAt config catalog state world begun earlier mine context f := by
  cases hstreams : e.source.streams config with
  | error stop =>
      rw [e.script_of_error hstreams] at hscript
      cases stop with
      | crash c => cases hscript
      | fault g =>
          cases hscript
          exact ⟨_, _, _, .resolve hstreams⟩
  | ok streams =>
      obtain ⟨done, rest, es, q, hchoices, hdone, hend⟩ :=
        exists_readsAll e streams (.initial state world) catalog.streams
      rw [e.script_of_ok hstreams, hchoices, hdone.legs_append] at hscript
      rcases hend with rfl | ⟨c, later, rfl, hlookup | ⟨s, stop, hlookup, hreached⟩⟩
      · cases hscript
      · rw [legs_cons_of_none _ hlookup] at hscript
        cases hscript
        exact ⟨_, _, _, .lookup hstreams hchoices hdone hlookup⟩
      · obtain ⟨taken, rest, es, t, hpulls, htakes, hhalts⟩ := leg_cases e s c q
        rcases hhalts with ⟨-, hleg⟩ | ⟨last, halted, stopped, hhalts, hleg⟩
        · obtain ⟨snapshot, r, hclosing, -⟩ := closingAt_cases e s.name (tracking? s c) t
            (readingFrom s c q).finish
          rw [hleg, hclosing] at hreached
          cases hreached
        · rw [hleg] at hreached
          cases hreached
          rw [legs_cons_of_error _ hlookup (by rw [hleg])] at hscript
          cases halted with
          | crash c => cases hscript
          | fault g =>
              cases hscript
              exact ⟨_, _, _, .reading hstreams hchoices hdone hlookup hpulls htakes hhalts⟩

/-- A read that fails has met such a fault. -/
theorem exists_faultAt
    (hfailed : (e.read config catalog state .unlimited world).result = .failed f) :
    ∃ begun earlier mine context,
      e.FaultAt config catalog state world begun earlier mine context f := by
  obtain ⟨-, hresult, -⟩ := (e.script config catalog state world).perform_unlimited e.secrets
  rw [read, hresult] at hfailed
  cases hscript : e.script config catalog state world with
  | mk emissions ending after =>
      rw [hscript] at hfailed
      cases ending with
      | finished o => cases hfailed
      | crashed c => cases hfailed
      | failed context g =>
          cases hfailed
          obtain ⟨begun, earlier, mine, hfault⟩ := exists_faultAt_of_script hscript
          exact ⟨begun, earlier, mine, context, hfault⟩

/-- What is emitted before the fault is also emitted when the source is mended. -/
theorem FaultAt.mended (hfault : e.FaultAt config catalog state world begun earlier mine context f)
    {source : Source ω} (hmends : source.Mends config e.source) :
    earlier ++ mine <+:
      messagesOf ((e.withSource source).script config catalog state world).emissions := by
  have hopening : (e.withSource source).opening = e.opening := by
    rw [opening, withSource, hmends.name]
    rfl
  cases hfault with
  | resolve hstreams =>
      rw [← hopening]
      exact opening_prefix_script _ _ _ _ _
  | @lookup streams done later c es q hstreams hchoices hdone hlookup =>
      obtain ⟨mended, hmended, hstreams⟩ := hmends.streams hstreams
      have hsame := hdone.mend source hstreams
      rw [script_of_ok _ hmended, hchoices, hsame.legs_append, List.append_nil, ← hopening]
      simp [Script.after]
  | @reading streams done later c s es mine last q taken rest t f after hstreams hchoices hdone
      hlookup hpulls htakes hhalts =>
      obtain ⟨mended, hmended, hstreams⟩ := hmends.streams hstreams
      have hsame := hdone.mend source hstreams
      obtain ⟨better, hfound, hbetter⟩ := hstreams hlookup
      have hleg := leg_mend_prefix source hbetter hpulls htakes hhalts
      have hlegs := hleg.trans (leg_prefix_legs later hfound)
      rw [script_of_ok _ hmended, hchoices, hsame.legs_append, ← hopening]
      simp only [Script.after, List.cons_append, messagesOf_cons, List.nil_append]
      refine List.cons_prefix_cons.mpr ⟨rfl, ?_⟩
      rw [messagesOf_append es]
      exact (List.prefix_append_right_inj _).mpr (messagesOf_isPrefix hlegs)

theorem FaultAt.spoken
    (hfault : e.FaultAt config catalog state world begun earlier mine context f) :
    ∀ m ∈ earlier ++ mine, e.Says m := by
  obtain ⟨emissions, after, hscript, hmessages⟩ := hfault.script
  intro m hm
  have hsays := e.says_script config catalog state world m
  rw [hscript, hmessages] at hsays
  exact hsays hm

/-- The snapshots of the stream that fails were due while it was read. -/
theorem FaultAt.behindDue
    (hfault : e.FaultAt config catalog state world begun earlier mine context f) :
    EverySnapshot (fun before _ => e.BehindDue before) mine := by
  cases hfault with
  | resolve hstreams => exact .of_stateless (by simp)
  | lookup hstreams hchoices hdone hlookup => exact .of_stateless (by simp)
  | @reading streams done later c s es mine last q taken rest t f after hstreams hchoices hdone
      hlookup hpulls htakes hhalts =>
      have hheading := e.heading_quiet s c q
      have hcount : (recordsIn (messagesOf (e.heading s c q))).length = 0 := by
        rw [recordsIn, List.filterMap_eq_nil_iff.mpr (fun m hm => by simp [(hheading m hm).1])]
        rfl
      have htaken := EverySnapshot.append (P := fun before _ => e.BehindDue before)
        (.of_stateless (fun m hm => (hheading m hm).2)) (htakes.behindDue hcount)
      rw [← messagesOf_append] at htaken
      rw [messagesOf_append]
      refine htaken.append_stateless ?_
      cases hhalts with
      | fault => simp
      | fold => simp [recordEmission, emission, recordMessage, Message.state?]

/-- The choices behind the one that fails do not matter. -/
theorem FaultAt.others
    (hfault : e.FaultAt config catalog state world begun earlier mine context f)
    (others : List ConfiguredStream) :
    e.FaultAt config ⟨begun ++ others⟩ state world begun earlier mine context f := by
  have hchoices : ∀ done (c : ConfiguredStream), done ++ [c] ++ others = done ++ c :: others := by
    simp
  cases hfault with
  | resolve hstreams => exact .resolve hstreams
  | lookup hstreams _ hdone hlookup =>
      exact .lookup hstreams (hchoices _ _) hdone hlookup
  | reading hstreams _ hdone hlookup hpulls htakes hhalts =>
      exact .reading hstreams (hchoices _ _) hdone hlookup hpulls htakes hhalts

theorem FaultAt.read_messages
    (hfault : e.FaultAt config catalog state world begun earlier mine context f)
    (hopen : f.isSinkClosed = false) :
    (e.read config catalog state .unlimited world).messages =
      earlier ++ mine ++ [.log .error (e.secrets.redact (context ++ "\n" ++ f.trace))] := by
  obtain ⟨emissions, after, hscript, hmessages⟩ := hfault.script
  obtain ⟨hrun, -, -⟩ := (e.script config catalog state world).perform_unlimited e.secrets
  rw [read, hrun, hscript, Ending.report, reportMessage?_of_open hopen, hmessages]
  rfl

/-- A read that fails, on a sink that takes everything. It returns the fault. It has emitted
what comes before the fault, which a read of any mended source emits too, with no snapshot of
the stream that fails but those that were due; and then the log message for the fault, the
only one that is not for information. Other streams chosen behind do not change that. -/
theorem read_fault (hfault : e.FaultAt config catalog state world begun earlier mine context f)
    (hopen : f.isSinkClosed = false) :
    (e.read config catalog state .unlimited world).result = .failed f ∧
    (e.read config catalog state .unlimited world).messages =
      earlier ++ mine ++ [.log .error (e.secrets.redact (context ++ "\n" ++ f.trace))] ∧
    (∀ level text, .log level text ∈ earlier ++ mine → level = .info) ∧
    EverySnapshot (fun before _ => e.BehindDue before) mine ∧
    (∀ others, (e.read config ⟨begun ++ others⟩ state .unlimited world).messages =
      (e.read config catalog state .unlimited world).messages) ∧
    ∀ source, source.Mends config e.source →
      earlier ++ mine <+:
        ((e.withSource source).read config catalog state .unlimited world).messages := by
  refine ⟨?_, hfault.read_messages hopen, ?_, hfault.behindDue, ?_, ?_⟩
  · obtain ⟨emissions, after, hscript, -⟩ := hfault.script
    obtain ⟨-, hresult, -⟩ := (e.script config catalog state world).perform_unlimited e.secrets
    rw [read, hresult, hscript]
    rfl
  · intro level text hlog
    exact (hfault.spoken _ hlog level text rfl).1
  · intro others
    rw [(hfault.others others).read_messages hopen, hfault.read_messages hopen]
  · intro source hmends
    obtain ⟨hmended, -, -⟩ := Script.perform_unlimited (e.withSource source).secrets
      ((e.withSource source).script config catalog state world)
    rw [read, hmended]
    exact (hfault.mended hmends).trans (List.prefix_append _ _)

end Engine

namespace FailureExample

/-- A cursor that is the last record. The faulty one takes a single record. -/
def latest (limit : Option Nat) : Incremental where
  cursorField := .field "seq"
  sourceDefined := true
  continuous := true
  fold folds _ r := if limit = some folds then .error (.fault (.other "no cursor")) else .ok r

def stream (limit : Option Nat) : DataStream Unit where
  name := "s"
  schema := defaultSchema
  incremental := some (latest limit)
  read _ _ := ⟨[⟨.record [("seq", .bool true)], ()⟩, ⟨.record [], ()⟩], ()⟩

def origin (limit : Option Nat) : Source Unit where
  name := "source"
  check _ world := (.ok .passed, world)
  streams _ := .ok [stream limit]

def engine : Engine Unit where
  source := origin (some 1)
  secrets := .none
  policy := ⟨1⟩
  stamp := 0

def choice : ConfiguredStream := ⟨(stream none).descriptor, .incremental, none⟩

/-- The stream is chosen twice, but it fails the first time. -/
def catalog : ConfiguredCatalog := ⟨[choice, choice]⟩

/-- What is emitted for the stream: the record that cannot be folded is the last message. -/
def emitted : List Message :=
  [engine.info "Syncing stream: s", engine.recordMessage "s" [("seq", .bool true)],
    .state (.ofEntries [("s", [("seq", .bool true)])]), engine.recordMessage "s" []]

/-- Where the reading stands when the first record has been taken. -/
def reached : Position Unit where
  records := 1
  cursor := [("seq", .bool true)]
  progress := (((Progress.initial none ()).addRecord ()).addFold "s").publish "s"
    [("seq", .bool true)]

theorem faultAt :
    engine.FaultAt .null catalog none () [choice] [engine.opening] emitted
      (Engine.streamContext "s") (.other "no cursor") := by
  have hstreams : engine.source.streams .null = .ok [stream (some 1)] := rfl
  have hchoices : catalog.streams = [] ++ choice :: [choice] := rfl
  have hlookup : Engine.lookup? [stream (some 1)] choice = some (stream (some 1)) := rfl
  have hpulls : (Engine.readingFrom (stream (some 1)) choice (.initial none ())).pulls =
      [⟨.record [("seq", .bool true)], ()⟩] ++ [⟨.record [], ()⟩] := rfl
  have htakes : engine.Takes "s" (some (latest (some 1))) ⟨0, [], .initial none ()⟩
      [⟨.record [("seq", .bool true)], ()⟩] _ reached := .cons (.published rfl rfl) (.nil _)
  have hhalts : engine.Halts "s" (some (latest (some 1))) reached [⟨.record [], ()⟩] _
    (.fault (.other "no cursor")) () := .fold () [] rfl rfl
  have hfault := Engine.FaultAt.reading hstreams hchoices (.nil (.initial none ())) hlookup hpulls
    htakes hhalts
  exact hfault

theorem latest_mends : (latest none).Mends (latest (some 1)) where
  continuous := rfl
  fold {folds cursor r folded} hfold := by
    simp only [latest] at hfold
    split at hfold
    · cases hfold
    · exact hfold

theorem origin_mends : (origin none).Mends .null (origin (some 1)) where
  name := rfl
  streams {streams} hstreams := by
    obtain rfl : [stream (some 1)] = streams := Except.ok.inj hstreams
    refine ⟨[stream none], rfl, ?_⟩
    intro c s hlookup
    simp only [Engine.lookup?, List.find?_singleton] at hlookup
    split at hlookup
    · rename_i hname
      obtain rfl : stream (some 1) = s := Option.some.inj hlookup
      refine ⟨stream none, ?_, ⟨rfl, .some latest_mends, fun _ _ => Or.inl rfl⟩⟩
      exact (List.find?_singleton ..).trans (if_pos hname)
    · cases hlookup

end FailureExample

open FailureExample in
/-- A fold that fails at the second record. -/
theorem Engine.read_fault_fold :
    engine.FaultAt .null catalog none () [choice] [engine.opening] emitted (streamContext "s")
        (.other "no cursor") ∧
      (Fault.other "no cursor").isSinkClosed = false ∧
      (engine.read .null catalog none .unlimited ()).result = .failed (.other "no cursor") ∧
      (engine.read .null catalog none .unlimited ()).messages =
        [engine.opening] ++ emitted ++ [.log .error (engine.secrets.redact
          (streamContext "s" ++ "\n" ++ (Fault.other "no cursor").trace))] ∧
      [engine.opening] ++ emitted <+:
        ((engine.withSource (origin none)).read .null catalog none .unlimited ()).messages := by
  obtain ⟨hresult, hmessages, -, -, -, hmended⟩ := engine.read_fault faultAt rfl
  exact ⟨faultAt, rfl, hresult, hmessages, hmended (origin none) origin_mends⟩

end SourceSync.Sync
