/-
How a run of a command reports that it failed. Whatever goes wrong, at whatever stage, ends the
run with one fatal log message, which is the last of all and the only one of its level. A
command that does not get what it needs before it starts says nothing else; a read that fails on
its way has logged the fault as an error right before.
-/
import SourceSync.Proofs.CommandLine.Discretion
import SourceSync.Proofs.Connector.Reading
import SourceSync.Proofs.Sync.Failure

namespace SourceSync

open Json

/-- Messages without a fatal log message. -/
def NoneFatal (messages : List Message) : Prop :=
  ∀ text, .log .fatal text ∉ messages

theorem Sync.Engine.read_noneFatal {ω : Type} (e : Sync.Engine ω) (config : Value)
    (catalog : ConfiguredCatalog) (state : Option SyncState) (sink : Sink) (world : ω) :
    NoneFatal (e.read config catalog state sink world).messages := by
  intro text htext
  rcases e.read_messages config catalog state sink world _ htext with hspeaks | ⟨plain, hlog⟩
  · obtain ⟨hlevel, -⟩ := hspeaks.says_masked _ _ rfl
    cases hlevel
  · cases hlog

/-- A declared source does not break down while it is read. -/
theorem ConnectorDefinition.read_ne_crashed {d : ConnectorDefinition}
    {e : Sync.Engine Http.Network} (hsource : e.source = d.source) (config : Value)
    (catalog : ConfiguredCatalog) (state : Option SyncState) (n : Http.Network) (crash : Crash) :
    (e.read config catalog state .unlimited n).result ≠ .crashed crash := by
  apply Sync.Engine.read_ne_crashed
  · rw [hsource]
    exact d.streams_ne_crash config
  · intro streams hstreams
    rw [hsource, streams_eq_ok_iff] at hstreams
    obtain ⟨resolved, client, -, -, rfl⟩ := exists_of_dataStreams hstreams
    exact d.built_paged client resolved

namespace CommandLine

/-- A report without a fatal message so far, with the secrets it registers. -/
structure Report.Quiet (secrets : Secrets) (r : Report) : Prop where
  registered : r.secrets = secrets
  noneFatal : NoneFatal r.messages

section Reports

variable (secrets : Secrets) (sink : Sink) (n : Http.Network)

theorem Report.stopped_quiet (f : Fault) : (Report.stopped f secrets n).Quiet secrets :=
  ⟨rfl, fun _ => List.not_mem_nil⟩

theorem Report.single_quiet {m : Message} (hm : ∀ text, m ≠ .log .fatal text) :
    (Report.single sink m secrets n).Quiet secrets := by
  unfold Report.single
  split
  · refine ⟨rfl, ?_⟩
    intro text htext
    exact hm text (List.mem_singleton.mp htext).symm
  · exact ⟨rfl, fun _ => List.not_mem_nil⟩

end Reports

section Commands

variable {i : Invocation} {files : Files} {s : Session} {f : Fault} (registered : Secrets)
  (sink : Sink) (stamp : Int) (n : Http.Network)

theorem runValidate_quiet (i : Invocation) (files : Files) :
    (runValidate registered i files sink n).Quiet registered := by
  unfold runValidate
  split
  · exact Report.stopped_quiet _ _ _
  · exact Report.single_quiet _ _ _ (fun _ => nofun)

theorem runCheck_quiet (s : Session) : (runCheck s sink n).Quiet s.secrets := by
  unfold runCheck
  split
  · exact Report.single_quiet _ _ _ nofun
  · exact Report.stopped_quiet _ _ _

theorem runDiscover_quiet (s : Session) : (runDiscover s sink n).Quiet s.secrets := by
  unfold runDiscover
  split
  · exact Report.single_quiet _ _ _ nofun
  · exact Report.stopped_quiet _ _ _

theorem runRead_quiet (i : Invocation) (o : ReadOptions) (s : Session) (files : Files) :
    (runRead i o s files sink stamp n).Quiet s.secrets := by
  simp only [runRead]
  split
  · exact Report.stopped_quiet _ _ _
  · exact ⟨rfl, Sync.Engine.read_noneFatal _ _ _ _ _ _⟩

theorem execute_validate (hcommand : i.command = .validate) :
    execute registered i files sink stamp n = runValidate registered i files sink n := by
  simp only [execute, hcommand]

theorem execute_of_load_error (hcommand : i.command ≠ .validate)
    (hload : Session.load i files = .error f) :
    execute registered i files sink stamp n = .stopped f registered n := by
  cases hkind : i.command with
  | check => simp only [execute, hkind, hload]
  | discover => simp only [execute, hkind, hload]
  | read o => simp only [execute, hkind, hload]
  | validate => exact absurd hkind hcommand

theorem execute_read {o : ReadOptions} (hcommand : i.command = .read o)
    (hload : Session.load i files = .ok s) :
    execute registered i files sink stamp n = runRead i o s files sink stamp n := by
  simp only [execute, hcommand, hload]

/-- A command without a session leaves the secrets registered before. -/
theorem execute_quiet_of_unloaded
    (hnone : i.command = .validate ∨ ∃ f, Session.load i files = .error f) :
    (execute registered i files sink stamp n).Quiet registered := by
  by_cases hcommand : i.command = .validate
  · rw [execute_validate registered sink stamp n hcommand]
    exact runValidate_quiet registered sink n i files
  · obtain ⟨f, hload⟩ := hnone.resolve_left hcommand
    rw [execute_of_load_error registered sink stamp n hcommand hload]
    exact Report.stopped_quiet _ _ _

/-- A command with a session registers the secrets of the session, whatever it does. -/
theorem execute_quiet_of_loaded (hcommand : i.command ≠ .validate)
    (hload : Session.load i files = .ok s) :
    (execute registered i files sink stamp n).Quiet s.secrets := by
  cases hkind : i.command with
  | check =>
      simp only [execute, hkind, hload]
      exact runCheck_quiet sink n s
  | discover =>
      simp only [execute, hkind, hload]
      exact runDiscover_quiet sink n s
  | read o =>
      rw [execute_read registered sink stamp n hkind hload]
      exact runRead_quiet sink stamp n i o s files
  | validate => exact absurd hkind hcommand

/-- Until its end is reported, a run has no fatal log message. -/
theorem execute_noneFatal (i : Invocation) (files : Files) :
    NoneFatal (execute registered i files sink stamp n).messages := by
  by_cases hcommand : i.command = .validate
  · exact (execute_quiet_of_unloaded registered sink stamp n (Or.inl hcommand)).noneFatal
  · cases hload : Session.load i files with
    | error f =>
        exact (execute_quiet_of_unloaded registered sink stamp n (Or.inr ⟨f, hload⟩)).noneFatal
    | ok s => exact (execute_quiet_of_loaded registered sink stamp n hcommand hload).noneFatal

end Commands

section Loading

/-- A command lacks something it needs before it starts: the connector, the configuration, the
state to start from, the choice of streams, because the catalog file cannot be used or nothing
is discovered, or a stream that was asked for by its name. -/
inductive Unready (i : Invocation) (files : Files) : Prop where
  | connector {f : Fault} (hconnector : i.loadConnector files = .error f)
  | config {f : Fault} (hcommand : i.command ≠ .validate) (hconfig : i.loadConfig files = .error f)
  | state {f : Fault} {o : ReadOptions} (hcommand : i.command = .read o)
      (hstate : i.loadState files = .error f)
  | catalog {f : Fault} {o : ReadOptions} {s : Session} (hcommand : i.command = .read o)
      (hload : Session.load i files = .ok s)
      (hchoice : chooseStreams o files ((s.engine .standard 0).discover s.config) = .error f)
  | stream {o : ReadOptions} {s : Session} {catalog : Catalog} {name : String}
      (hcommand : i.command = .read o) (hload : Session.load i files = .ok s)
      (hfile : o.catalog = none)
      (hdiscover : (s.engine .standard 0).discover s.config = .ok catalog)
      (hname : name ∈ o.streams) (hmissing : catalog.get? name = none)

variable {i : Invocation} {files : Files} {s : Session} {o : ReadOptions}

variable (files) in
theorem chooseStreams_of_missing {catalog : Catalog} {name : String} (hfile : o.catalog = none)
    (hname : name ∈ o.streams) (hmissing : catalog.get? name = none) :
    ∃ missing, chooseStreams o files (.ok catalog) = .error (.streamNotFound missing) := by
  have hsome : (o.streams.find? (fun name => (catalog.get? name).isNone)).isSome := by
    rw [List.find?_isSome]
    exact ⟨name, hname, by rw [hmissing]; rfl⟩
  obtain ⟨missing, hfind⟩ := Option.isSome_iff_exists.mp hsome
  have hcatalog : (Except.ok catalog : Except Stop Catalog).mapError faultOf = .ok catalog := rfl
  refine ⟨missing, ?_⟩
  simp only [chooseStreams, hfile, hcatalog, bind, Except.bind, hfind]

theorem Session.load_error {f : Fault} (hfails : i.loadConnector files = .error f ∨
    i.loadConfig files = .error f) : ∃ g, Session.load i files = .error g := by
  cases hload : Session.load i files with
  | error g => exact ⟨g, rfl⟩
  | ok s =>
      obtain ⟨d, hconnector, hload⟩ := exists_of_bind_ok hload
      obtain ⟨config, hconfig, -⟩ := exists_of_bind_ok hload
      rcases hfails with hfails | hfails
      · cases hconnector.symm.trans hfails
      · cases hconfig.symm.trans hfails

variable (sink : Sink) (stamp : Int) (n : Http.Network)

theorem runRead_of_loaded {catalog : ConfiguredCatalog} {state : Option SyncState}
    (hchoice : chooseStreams o files ((s.engine .standard 0).discover s.config) = .ok catalog)
    (hstate : i.loadState files = .ok state) :
    runRead i o s files sink stamp n =
      .ofRun ((s.engine ⟨o.checkpointInterval⟩ stamp).read s.config catalog state sink n)
        s.secrets := by
  have hdiscover : (s.engine ⟨o.checkpointInterval⟩ stamp).discover s.config =
      (s.engine .standard 0).discover s.config := rfl
  simp only [runRead, hdiscover, hchoice, hstate]
  rfl

theorem runRead_of_unloaded {f : Fault}
    (hfails : chooseStreams o files ((s.engine .standard 0).discover s.config) = .error f ∨
      i.loadState files = .error f) :
    ∃ g, runRead i o s files sink stamp n = .stopped g s.secrets n := by
  have hdiscover : (s.engine ⟨o.checkpointInterval⟩ stamp).discover s.config =
      (s.engine .standard 0).discover s.config := rfl
  cases hchoice : chooseStreams o files ((s.engine .standard 0).discover s.config) with
  | error g =>
      refine ⟨g, ?_⟩
      simp only [runRead, hdiscover, hchoice]
      rfl
  | ok catalog =>
      have hstate : i.loadState files = .error f := by
        rcases hfails with hfails | hfails
        · cases hchoice.symm.trans hfails
        · exact hfails
      refine ⟨f, ?_⟩
      simp only [runRead, hdiscover, hchoice, hstate]
      rfl

theorem Unready.stopped (hunready : Unready i files) (registered : Secrets) :
    ∃ f secrets, execute registered i files sink stamp n = .stopped f secrets n := by
  have hloading : ∀ {f}, i.command ≠ .validate → Session.load i files = .error f →
      ∃ f secrets, execute registered i files sink stamp n = .stopped f secrets n :=
    fun hcommand hload => ⟨_, _, execute_of_load_error registered sink stamp n hcommand hload⟩
  have hreading : ∀ {f o s}, i.command = .read o → Session.load i files = .ok s →
      (chooseStreams o files ((s.engine .standard 0).discover s.config) = .error f ∨
        i.loadState files = .error f) →
      ∃ f secrets, execute registered i files sink stamp n = .stopped f secrets n := by
    intro f o s hcommand hload hfails
    obtain ⟨g, hstopped⟩ := runRead_of_unloaded sink stamp n hfails
    exact ⟨g, s.secrets, (execute_read registered sink stamp n hcommand hload).trans hstopped⟩
  cases hunready with
  | @connector f hconnector =>
      by_cases hcommand : i.command = .validate
      · refine ⟨f, registered, ?_⟩
        rw [execute_validate registered sink stamp n hcommand]
        simp only [runValidate, hconnector]
      · obtain ⟨g, hload⟩ := Session.load_error (Or.inl hconnector)
        exact hloading hcommand hload
  | config hcommand hconfig =>
      obtain ⟨g, hload⟩ := Session.load_error (Or.inr hconfig)
      exact hloading hcommand hload
  | state hcommand hstate =>
      cases hload : Session.load i files with
      | error g => exact hloading (by rw [hcommand]; exact nofun) hload
      | ok s => exact hreading hcommand hload (Or.inr hstate)
  | catalog hcommand hload hchoice => exact hreading hcommand hload (Or.inl hchoice)
  | stream hcommand hload hfile hdiscover hname hmissing =>
      obtain ⟨missing, hchoice⟩ := chooseStreams_of_missing files hfile hname hmissing
      rw [← hdiscover] at hchoice
      exact hreading hcommand hload (Or.inl hchoice)

end Loading

section Reading

variable {s : Session} {config : Value} {catalog : ConfiguredCatalog} {state : Option SyncState}

/-- A read that fails has logged its fault as an error in its last message. -/
theorem ofRun_error {policy : CheckpointPolicy} {stamp : Int} {n : Http.Network} {f : Fault}
    (hopen : f.isSinkClosed = false)
    (hresult : (Report.ofRun ((s.engine policy stamp).read config catalog state .unlimited n)
      s.secrets).result = .error f) :
    ∃ before context,
      ((s.engine policy stamp).read config catalog state .unlimited n).messages =
        before ++ [.log .error (s.secrets.redact (Sync.faultText context f))] := by
  cases hrun : ((s.engine policy stamp).read config catalog state .unlimited n).result with
  | finished o =>
      simp only [Report.ofRun, hrun] at hresult
      cases hresult
  | crashed crash =>
      exact absurd hrun (ConnectorDefinition.read_ne_crashed rfl config catalog state n crash)
  | failed g =>
      simp only [Report.ofRun, hrun] at hresult
      cases hresult
      obtain ⟨begun, earlier, mine, context, hfault⟩ := Sync.Engine.exists_faultAt hrun
      exact ⟨earlier ++ mine, context, hfault.read_messages hopen⟩

end Reading

section Closing

theorem closing_of_ok {sink : Sink} {r : Report} (hresult : r.result = .ok ()) :
    r.closing sink = r := by
  simp only [Report.closing, hresult]

theorem closing_of_error {r : Report} {f : Fault} (hresult : r.result = .error f) :
    r.closing .unlimited =
      { r with
        messages := r.messages ++ [.log .fatal (r.secrets.redact f.trace)]
        tried := r.tried + 1 } := by
  simp only [Report.closing, hresult]
  rfl

theorem closing_result (sink : Sink) (r : Report) : (r.closing sink).result = r.result := by
  unfold Report.closing
  split <;> rfl

theorem closing_secrets (sink : Sink) (r : Report) : (r.closing sink).secrets = r.secrets := by
  unfold Report.closing
  split <;> rfl

end Closing

/-- A run on a sink that takes everything, of any command, with any files, servers and states.
It ends with a fault exactly if it has emitted a fatal log message; that message is then the
last one and the only fatal one, and its text is the trace of the fault, masked with the secrets
that are registered: those of the session once there is one, until then those of before. A read
that fails behind its loading has logged the same fault as an error right before, unless nobody
takes messages any more. A command that was not ready says nothing but its fatal message. -/
theorem run_reports (registered : Secrets) (i : Invocation) (files : Files) (stamp : Int)
    (n : Http.Network) :
    let r := run registered i files .unlimited stamp n
    ((∃ f, r.result = .error f) ↔ ∃ text, .log .fatal text ∈ r.messages) ∧
    (∀ f, r.result = .error f → ∃ before,
      r.messages = before ++ [.log .fatal (r.secrets.redact f.trace)] ∧ NoneFatal before) ∧
    ((i.command = .validate ∨ ∃ f, Session.load i files = .error f) →
      r.secrets = registered) ∧
    (∀ s, i.command ≠ .validate → Session.load i files = .ok s → r.secrets = s.secrets) ∧
    (∀ o s catalog state f, i.command = .read o → Session.load i files = .ok s →
      chooseStreams o files ((s.engine .standard 0).discover s.config) = .ok catalog →
      i.loadState files = .ok state → r.result = .error f → f.isSinkClosed = false →
      ∃ before context, r.messages = before ++
        [.log .error (r.secrets.redact (Sync.faultText context f)),
          .log .fatal (r.secrets.redact f.trace)]) ∧
    (Unready i files →
      ∃ f, r.result = .error f ∧ r.messages = [.log .fatal (r.secrets.redact f.trace)]) := by
  intro r
  have hr : r = (execute registered i files .unlimited stamp n).closing .unlimited := rfl
  have hresult : r.result = (execute registered i files .unlimited stamp n).result :=
    closing_result _ _
  have hsecrets : r.secrets = (execute registered i files .unlimited stamp n).secrets :=
    closing_secrets _ _
  have hquiet := execute_noneFatal registered .unlimited stamp n i files
  have hclosed : ∀ f, r.result = .error f → r.messages =
      (execute registered i files .unlimited stamp n).messages ++
        [.log .fatal (r.secrets.redact f.trace)] := by
    intro f hf
    rw [hsecrets, hr, closing_of_error (hresult.symm.trans hf)]
  refine ⟨⟨?_, ?_⟩, ?_, ?_, ?_, ?_, ?_⟩
  · rintro ⟨f, hf⟩
    exact ⟨_, hclosed f hf ▸ List.mem_append_right _ List.mem_cons_self⟩
  · rintro ⟨text, htext⟩
    cases hends : (execute registered i files .unlimited stamp n).result with
    | error f => exact ⟨f, hresult.trans hends⟩
    | ok done =>
        rw [hr, closing_of_ok hends] at htext
        exact absurd htext (hquiet text)
  · intro f hf
    exact ⟨_, hclosed f hf, hquiet⟩
  · intro hnone
    rw [hsecrets]
    exact (execute_quiet_of_unloaded registered .unlimited stamp n hnone).registered
  · intro s hcommand hload
    rw [hsecrets]
    exact (execute_quiet_of_loaded registered .unlimited stamp n hcommand hload).registered
  · intro o s catalog state f hcommand hload hchoice hstate hf hopen
    have hread := (execute_read registered .unlimited stamp n hcommand hload).trans
      (runRead_of_loaded .unlimited stamp n hchoice hstate)
    rw [hclosed f hf, hsecrets, hread]
    rw [hresult, hread] at hf
    obtain ⟨before, context, hmessages⟩ := ofRun_error hopen hf
    refine ⟨before, context, ?_⟩
    simp only [Report.ofRun, hmessages, List.append_assoc]
    rfl
  · intro hunready
    obtain ⟨f, secrets, hstopped⟩ := hunready.stopped .unlimited stamp n registered
    have hf : r.result = .error f := by rw [hresult, hstopped, Report.stopped]
    refine ⟨f, hf, ?_⟩
    rw [hclosed f hf, hstopped]
    rfl

namespace ReportingExample

def readAll : Invocation := { DiscretionExample.plainCheck with command := .read ⟨none, [], 1⟩ }

/-- A run whose server does not answer. -/
def unanswered : Report := run .none readAll DiscretionExample.files .unlimited 0 .silent

theorem levels_unanswered :
    unanswered.messages.map (fun m => m.log?.map Prod.fst) =
      [some .info, some .info, some .error, some .fatal] := by
  decide +kernel

end ReportingExample

open ReportingExample in
/-- A read that begins with a stream, gets no answer, and reports that twice; and a run without
a connector. -/
theorem run_reports_unanswered :
    (∃ (f : Fault) (before : List Message), unanswered.result = .error f ∧ before.length = 3 ∧
      unanswered.messages = before ++ [.log .fatal (unanswered.secrets.redact f.trace)]) ∧
    Unready { readAll with connector := none } Files.none ∧
    ∃ f : Fault,
      (run .none { readAll with connector := none } Files.none .unlimited 0 .silent).messages =
        [.log .fatal (Secrets.none.redact f.trace)] := by
  obtain ⟨hiff, hlast, -⟩ := run_reports .none readAll DiscretionExample.files 0 .silent
  have hunready : Unready { readAll with connector := none } Files.none := .connector rfl
  obtain ⟨-, -, hunloaded, -, -, hfirst⟩ :=
    run_reports .none { readAll with connector := none } Files.none 0 .silent
  refine ⟨?_, hunready, ?_⟩
  · have hfatal : some Level.fatal ∈ unanswered.messages.map (fun m => m.log?.map Prod.fst) := by
      rw [levels_unanswered]
      decide
    obtain ⟨m, hm, hlevel⟩ := List.mem_map.mp hfatal
    obtain ⟨⟨level, text⟩, hlog, rfl⟩ := Option.map_eq_some_iff.mp hlevel
    have hm' : m = .log .fatal text := by
      cases m <;> cases hlog
      rfl
    obtain ⟨f, hresult⟩ := hiff.mpr ⟨text, hm' ▸ hm⟩
    obtain ⟨before, hmessages, -⟩ := hlast f hresult
    have hlength := congrArg List.length levels_unanswered
    rw [List.length_map, unanswered, hmessages, List.length_append] at hlength
    exact ⟨f, before, hresult, Nat.succ.inj hlength, hmessages⟩
  · obtain ⟨f, -, hmessages⟩ := hfirst hunready
    rw [hunloaded (Or.inr ⟨_, rfl⟩)] at hmessages
    exact ⟨f, hmessages⟩

end CommandLine

end SourceSync
