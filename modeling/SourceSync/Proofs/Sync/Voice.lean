/-
What the engine says itself. As long as nothing fails it logs only information,
and a fault adds one message at most; all of it goes through the masking. So the
log messages of a read, like the details of a connection check, show no secret,
whatever the names, saved states and faults hold that they are made from.
-/
import SourceSync.Proofs.Masking
import SourceSync.Proofs.Sync.Chapter

namespace SourceSync.Sync

open Json

variable {ω : Type}

namespace Engine

/-- What an engine emits while nothing has failed: information, records and states. -/
inductive Speaks (e : Engine ω) : Message → Prop where
  | info (text : String) : Speaks e (e.info text)
  | record (r : StreamRecord) : Speaks e (.record r)
  | state (a : SyncState) : Speaks e (.state a)

/-- A message that may be emitted while nothing has failed: if it is a log message, it is
for information and its text was masked. -/
def Says (e : Engine ω) (m : Message) : Prop :=
  ∀ level text, m = .log level text → level = .info ∧ ∃ plain, text = e.secrets.redact plain

variable {e : Engine ω} {name : String} {incremental : Option Incremental} {s t : Position ω}

theorem Speaks.says_masked {m : Message} (hspeaks : e.Speaks m) : e.Says m := by
  intro level text hlog
  cases hspeaks with
  | info plain =>
      cases hlog
      exact ⟨rfl, plain, rfl⟩
  | record r => cases hlog
  | state a => cases hlog

theorem Advances.spoken {r : Object} {world : ω} {snapshot : List (Emission ω)}
    (hadvances : e.Advances name s r world incremental snapshot t) :
    ∀ m ∈ messagesOf (e.recordEmission name r world :: snapshot), e.Speaks m := by
  intro m hm
  rcases List.mem_cons.mp hm with rfl | hsnapshot
  · exact .record _
  · cases hadvances with
    | full => cases hsnapshot
    | folded hfold hdue => cases hsnapshot
    | published hfold hdue =>
        rw [List.mem_singleton.mp hsnapshot]
        exact .state _

theorem Takes.spoken {taken : List (Pull ω)} {es : List (Emission ω)}
    (htakes : e.Takes name incremental s taken es t) : ∀ m ∈ messagesOf es, e.Speaks m := by
  induction htakes with
  | nil s => simp
  | cons hadvances _ ih =>
      intro m hm
      rw [messagesOf_append] at hm
      exact (List.mem_append.mp hm).elim (hadvances.spoken m) (ih m)

theorem Halts.spoken {pulls : List (Pull ω)} {last : List (Emission ω)} {stop : Stop} {world : ω}
    (hhalts : e.Halts name incremental s pulls last stop world) :
    ∀ m ∈ messagesOf last, e.Speaks m := by
  cases hhalts with
  | fault f world rest => simp
  | crash c world rest => simp
  | fold world rest hincremental hfold =>
      intro m hm
      rw [List.mem_singleton.mp hm]
      exact .record _

variable (e name incremental s) in
theorem speaks_closingAt (finish : ω) :
    ∀ m ∈ messagesOf (e.closingAt name incremental finish s).emissions, e.Speaks m := by
  have hsummary : e.Speaks (e.summary name s.records) := .info _
  obtain ⟨snapshot, q, hclosing, hsnapshot⟩ := closingAt_cases e name incremental s finish
  rw [hclosing]
  rcases hsnapshot with rfl | rfl
  · simpa [messagesOf, emission] using hsummary
  · simpa [messagesOf, emission] using ⟨.state _, hsummary⟩

variable (e) in
theorem speaks_heading (stream : DataStream ω) (c : ConfiguredStream) (p : Progress ω) :
    ∀ m ∈ messagesOf (e.heading stream c p), e.Speaks m := by
  intro m hm
  unfold heading at hm
  split at hm
  · rw [List.mem_singleton.mp hm]
    exact .info _
  · simp only [messagesOf_cons, messagesOf_nil, List.mem_cons, List.not_mem_nil, or_false] at hm
    rcases hm with rfl | rfl <;> exact .info _

end Engine

open Engine

theorem Chapter.spoken (e : Engine ω) (ch : Chapter ω) : ∀ m ∈ ch.messages e, e.Speaks m := by
  obtain ⟨taken, rest, es, t, -, htakes, hend⟩ := leg_cases e ch.stream ch.choice ch.start
  have hbody : ∀ m ∈ messagesOf (e.heading ch.stream ch.choice ch.start ++ es), e.Speaks m := by
    intro m hm
    rw [messagesOf_append] at hm
    exact (List.mem_append.mp hm).elim (e.speaks_heading _ _ _ m) (htakes.spoken m)
  intro m hm
  rcases hend with ⟨-, hleg⟩ | ⟨last, stop, world, hhalts, hleg⟩
  · rw [Chapter.messages, Chapter.leg, hleg, Leg.after, messagesOf_append] at hm
    exact (List.mem_append.mp hm).elim (hbody m) (e.speaks_closingAt _ _ _ _ m)
  · rw [Chapter.messages, Chapter.leg, hleg, messagesOf_append] at hm
    exact (List.mem_append.mp hm).elim (hbody m) (hhalts.spoken m)

namespace Engine

variable (e : Engine ω)

theorem speaks_messagesIn (chapters : List (Chapter ω)) :
    ∀ m ∈ e.messagesIn chapters, e.Speaks m := by
  intro m hm
  obtain ⟨ch, -, hmessage⟩ := List.mem_flatMap.mp hm
  exact ch.spoken e m hmessage

/-- While nothing is refused and nothing has failed, nothing but information, records and
states is emitted. -/
theorem speaks_script (config : Value) (catalog : ConfiguredCatalog) (state : Option SyncState)
    (world : ω) : ∀ m ∈ messagesOf (e.script config catalog state world).emissions, e.Speaks m := by
  intro m hm
  cases hstreams : e.source.streams config with
  | error stop =>
      rw [e.script_of_error hstreams] at hm
      rw [List.mem_singleton.mp hm]
      exact .info _
  | ok streams =>
      obtain ⟨ending, hmessages, hending⟩ :=
        e.legs_messages streams (.initial state world) catalog.streams
      rw [e.script_of_ok hstreams, Script.after, messagesOf_append, hmessages] at hm
      simp only [messagesOf_cons, messagesOf_nil, List.mem_append, List.mem_singleton] at hm
      rcases hm with rfl | hchapters | hend
      · exact .info _
      · exact e.speaks_messagesIn _ m hchapters
      · rcases hending with rfl | rfl
        · cases hend
        · rw [List.mem_singleton.mp hend]
          exact .info _

theorem says_script (config : Value) (catalog : ConfiguredCatalog) (state : Option SyncState)
    (world : ω) : ∀ m ∈ messagesOf (e.script config catalog state world).emissions, e.Says m :=
  fun m hm => (e.speaks_script config catalog state world m hm).says_masked

/-- A sink is given what the engine says while nothing fails, and masked reports of faults. -/
theorem read_messages (config : Value) (catalog : ConfiguredCatalog) (state : Option SyncState)
    (sink : Sink) (world : ω) :
    ∀ m ∈ (e.read config catalog state sink world).messages,
      e.Speaks m ∨ ∃ text, m = Log.format e.secrets .error text := by
  intro m hm
  obtain ⟨taken, reports, hmessages, htaken, hreports⟩ :=
    Script.perform_messages e.secrets sink (e.script config catalog state world)
  rw [read, hmessages] at hm
  rcases List.mem_append.mp hm with hm | hm
  · exact Or.inl (e.speaks_script _ _ _ _ m (htaken.subset hm))
  · obtain ⟨context, f, hreport⟩ := hreports m hm
    exact Or.inr ⟨_, (reportMessage?_eq_some hreport).2⟩

/-- The text of every log message that a sink is given was masked. -/
theorem read_log_masked (config : Value) (catalog : ConfiguredCatalog) (state : Option SyncState)
    (sink : Sink) (world : ω) {level : Level} {text : String}
    (hlog : .log level text ∈ (e.read config catalog state sink world).messages) :
    ∃ plain, text = e.secrets.redact plain := by
  rcases e.read_messages config catalog state sink world _ hlog with hspeaks | ⟨plain, hreport⟩
  · exact (hspeaks.says_masked _ _ rfl).2
  · cases hreport
    exact ⟨plain, rfl⟩

/-- No log message of a read and no detail of a connection check shows an active secret, as
long as no secret holds the character that masks it. -/
theorem secrets_hidden (hplain : ∀ v ∈ e.secrets.values, '*' ∉ v.toList) :
    (∀ config catalog state sink world level text,
      .log level text ∈ (e.read config catalog state sink world).messages →
        e.secrets.HiddenIn text) ∧
    (∀ config world status, (e.check config world).1 = .ok status → status.succeeded = false →
      ∃ detail, status.detail = some detail ∧ e.secrets.HiddenIn detail) ∧
    (∀ config world f, (e.check config world).1 = .error (.fault f) →
      ∃ message, f = .connectionCheck message ∧ e.secrets.HiddenIn message) := by
  have hhidden := e.secrets.hiddenIn_redact hplain
  refine ⟨?_, ?_, ?_⟩
  · intro config catalog state sink world level text hlog
    obtain ⟨plain, rfl⟩ := e.read_log_masked config catalog state sink world hlog
    exact hhidden plain
  · intro config world status hstatus hfailed
    unfold check at hstatus
    split at hstatus
    · rename_i result after hresult
      split at hstatus
      · cases hstatus
        cases hfailed
      · cases hstatus
        exact ⟨_, rfl, hhidden _⟩
    · cases hstatus
    · cases hstatus
  · intro config world f hfault
    unfold check at hfault
    split at hfault
    · split at hfault <;> cases hfault
    · cases hfault
      exact ⟨_, rfl, hhidden _⟩
    · cases hfault

end Engine

namespace VoiceExample

/-- A stream that fails with a secret in its fault. -/
def stream : DataStream Unit where
  name := "token"
  schema := defaultSchema
  incremental := none
  read _ _ := ⟨[⟨.fault (.context "token-7" (.other "token")), ()⟩], ()⟩

def catalog : ConfiguredCatalog := ⟨[⟨stream.descriptor, .fullRefresh, none⟩]⟩

/-- An engine with two secrets, one of which holds the other. -/
def engine : Engine Unit where
  source := ⟨"token-7", fun _ world => (.ok (.failed "token-7 was refused"), world),
    fun _ => .ok [stream]⟩
  secrets := .ofList ["token", "token-7"]
  policy := ⟨1⟩
  stamp := 0

end VoiceExample

open VoiceExample in
/-- Neither the log messages nor the check of an engine that uses its secrets everywhere. -/
theorem Engine.secrets_hidden_token :
    (∀ v ∈ engine.secrets.values, '*' ∉ v.toList) ∧
      .log .error (engine.secrets.redact (faultText (streamContext "token")
        (.context "token-7" (.other "token")))) ∈
          (engine.read .null catalog none .unlimited ()).messages ∧
      (∀ level text, .log level text ∈ (engine.read .null catalog none .unlimited ()).messages →
        engine.secrets.HiddenIn text) ∧
      ∃ detail, (engine.check .null ()).1 = .ok ⟨false, some detail⟩ ∧
        engine.secrets.HiddenIn detail := by
  have hplain : ∀ v ∈ engine.secrets.values, '*' ∉ v.toList := by decide
  have hlogged : .log .error (engine.secrets.redact (faultText (streamContext "token")
      (.context "token-7" (.other "token")))) ∈
        (engine.read .null catalog none .unlimited ()).messages :=
    List.mem_of_getLast? rfl
  obtain ⟨hread, hcheck, -⟩ := engine.secrets_hidden hplain
  obtain ⟨detail, hdetail, hhidden⟩ := hcheck .null () _ rfl rfl
  have hstatus : (engine.check .null ()).1 = .ok ⟨false, some detail⟩ := by
    rw [← hdetail]
    rfl
  exact ⟨hplain, hlogged, hread .null catalog none .unlimited (), detail, hstatus, hhidden⟩

end SourceSync.Sync
