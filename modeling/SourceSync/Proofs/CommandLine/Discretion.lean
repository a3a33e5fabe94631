/-
What a run of a command shows. Once the connector and the configuration are known, all
log messages and all details of failed checks are masked with the secrets of that
configuration, however the command goes on. So neither the values of secret properties nor
the credentials of the client are ever shown, whatever servers answer.
-/
import SourceSync.CommandLine.Runner
import SourceSync.Proofs.Connector.Credentials
import SourceSync.Proofs.Sync.Voice

namespace SourceSync

open Json

/-- The text that a message shows to people: that of a log message, and the detail of a
connection check that failed. -/
inductive Message.Shows : Message → String → Prop where
  | log (level : Level) (text : String) : Shows (.log level text) text
  | detail (text : String) : Shows (.connectionStatus ⟨false, some text⟩) text

/-- A message that shows nothing but masked text. -/
def Message.Masked (secrets : Secrets) (m : Message) : Prop :=
  ∀ shown, m.Shows shown → ∃ plain, shown = secrets.redact plain

theorem Log.format_masked (secrets : Secrets) (level : Level) (text : String) :
    (Log.format secrets level text).Masked secrets := by
  intro shown hshown
  cases hshown
  exact ⟨text, rfl⟩

namespace Sync.Engine

variable {ω : Type} {e : Engine ω}

theorem Speaks.masked {m : Message} (hspeaks : e.Speaks m) : m.Masked e.secrets := by
  cases hspeaks with
  | info text => exact Log.format_masked e.secrets .info text
  | record r => exact nofun
  | state a => exact nofun

theorem read_masked (e : Engine ω) (config : Value) (catalog : ConfiguredCatalog)
    (state : Option SyncState) (sink : Sink) (world : ω) :
    ∀ m ∈ (e.read config catalog state sink world).messages, m.Masked e.secrets := by
  intro m hm
  rcases e.read_messages config catalog state sink world m hm with hspeaks | ⟨text, rfl⟩
  · exact hspeaks.masked
  · exact Log.format_masked e.secrets .error text

theorem check_masked {config : Value} {world : ω} {status : ConnectionStatus}
    (hstatus : (e.check config world).1 = .ok status) :
    (Message.connectionStatus status).Masked e.secrets := by
  intro shown hshown
  cases hshown
  unfold check at hstatus
  split at hstatus
  · split at hstatus <;> cases hstatus
    exact ⟨_, rfl⟩
  · cases hstatus
  · cases hstatus

end Sync.Engine

/-- A sink takes some of the messages it is offered. -/
theorem Sink.taken_sublist (s : Sink) (tried : Nat) (messages : List Message) :
    (s.taken tried messages).Sublist messages := by
  induction messages generalizing tried with
  | nil => exact .slnil
  | cons m rest ih =>
      unfold Sink.taken
      split
      · exact (ih (tried + 1)).cons_cons m
      · exact (ih (tried + 1)).cons m

namespace CommandLine

/-- A report of masked messages, with the secrets that masked them. -/
structure Report.Discreet (secrets : Secrets) (r : Report) : Prop where
  registered : r.secrets = secrets
  masked : ∀ m ∈ r.messages, m.Masked secrets

section Reports

variable (secrets : Secrets) (sink : Sink) (n : Http.Network)

theorem Report.stopped_discreet (f : Fault) : (Report.stopped f secrets n).Discreet secrets :=
  ⟨rfl, nofun⟩

variable {secrets} in
theorem Report.single_discreet {m : Message} (hm : m.Masked secrets) :
    (Report.single sink m secrets n).Discreet secrets := by
  unfold Report.single
  split
  · exact ⟨rfl, fun other hother => List.mem_singleton.mp hother ▸ hm⟩
  · exact ⟨rfl, nofun⟩

variable {secrets} in
/-- The last message, about the fault that ended the run, is masked as well. -/
theorem Report.Discreet.closing {r : Report} (hr : r.Discreet secrets) :
    (r.closing sink).Discreet secrets := by
  unfold Report.closing
  split
  · exact hr
  · refine ⟨hr.registered, ?_⟩
    intro m hm
    rcases List.mem_append.mp hm with hm | hm
    · exact hr.masked m hm
    · rw [hr.registered] at hm
      rw [List.mem_singleton.mp ((sink.taken_sublist _ _).subset hm)]
      exact Log.format_masked secrets .fatal _

end Reports

section Commands

variable (s : Session) (sink : Sink) (n : Http.Network)

theorem runCheck_discreet : (runCheck s sink n).Discreet s.secrets := by
  unfold runCheck
  split
  · next status after hcheck =>
      have hmasked := Sync.Engine.check_masked (congrArg Prod.fst hcheck)
      exact Report.single_discreet sink after hmasked
  · exact Report.stopped_discreet _ _ _

theorem runDiscover_discreet : (runDiscover s sink n).Discreet s.secrets := by
  unfold runDiscover
  split
  · exact Report.single_discreet sink n nofun
  · exact Report.stopped_discreet _ _ _

theorem runRead_discreet (i : Invocation) (o : ReadOptions) (files : Files) (stamp : Int) :
    (runRead i o s files sink stamp n).Discreet s.secrets := by
  unfold runRead
  simp only
  split
  · exact Report.stopped_discreet _ _ _
  · next catalog state _ =>
      exact ⟨rfl, (s.engine ⟨o.checkpointInterval⟩ stamp).read_masked s.config catalog state sink n⟩

end Commands

section Runs

variable {i : Invocation} {files : Files} {d : ConnectorDefinition} {config : Value}
  {registered : Secrets}

theorem Session.load_eq (hconnector : i.loadConnector files = .ok d)
    (hconfig : i.loadConfig files = .ok config) : Session.load i files = .ok ⟨d, config⟩ := by
  unfold Session.load
  rw [hconnector, hconfig]
  rfl

/-- Every command that needs a session is discreet once it has one. -/
theorem run_discreet (hconnector : i.loadConnector files = .ok d)
    (hconfig : i.loadConfig files = .ok config) (hcommand : i.command ≠ .validate) (sink : Sink)
    (stamp : Int) (n : Http.Network) :
    (run registered i files sink stamp n).Discreet (Session.mk d config).secrets := by
  refine Report.Discreet.closing sink ?_
  have hload := Session.load_eq hconnector hconfig
  unfold execute
  simp only [hload]
  cases hkind : i.command with
  | check => exact runCheck_discreet _ sink n
  | discover => exact runDiscover_discreet _ sink n
  | read o => exact runRead_discreet _ sink n i o files stamp
  | validate => exact absurd hkind hcommand

/-- A command that has loaded its connector and its configuration shows nothing confidential:
neither the texts of secret properties, given or declared, nor the credentials of the client.
That no registered secret holds the character of the mask is needed for the masking itself. -/
theorem run_hides_confidential (hconnector : i.loadConnector files = .ok d)
    (hconfig : i.loadConfig files = .ok config) (hcommand : i.command ≠ .validate) (sink : Sink)
    (stamp : Int) (n : Http.Network)
    (hplain : ∀ v ∈ (run registered i files sink stamp n).secrets.values, '*' ∉ v.toList) :
    ∀ m ∈ (run registered i files sink stamp n).messages, ∀ shown, m.Shows shown →
      ∀ v, d.Confidential (Session.mk d config).resolved v → v ≠ "" →
        ¬ v.toList <:+: shown.toList := by
  intro m hm shown hshown v hconfidential hv
  obtain ⟨hregistered, hmasked⟩ := run_discreet hconnector hconfig hcommand sink stamp n
  obtain ⟨plain, rfl⟩ := hmasked m hm shown hshown
  rw [hregistered] at hplain
  have hsecret : v ∈ (Session.mk d config).secrets.values :=
    List.mem_filter.mpr ⟨hconfidential.mem_secrets hv, by simpa using hv⟩
  exact (Session.mk d config).secrets.hiddenIn_redact hplain plain v hsecret

end Runs

namespace DiscretionExample

/-- A connector with a default for a secret property, and with a token made from it. -/
def connector : String :=
  "name: a\nbase_url: http://h\nspec: \x7bproperties: \x7bk: \x7bsecret: true, default: k1\x7d\x7d\x7d\n" ++
    "auth: \x7btype: bearer, token: 't-\x7b\x7bconfig.k\x7d\x7d'\x7d\nstreams: [\x7bname: s, path: s\x7d]"

/-- Files that all hold a text, of characters with one octet each. -/
def filesOf (text : String) : Files := fun _ => .ok (text.toList.map (fun c => UInt8.ofNat c.toNat))

def files : Files := filesOf connector

/-- A check without a configuration. -/
def plainCheck : Invocation where
  connector := some "a"
  config := none
  configJson := none
  state := none
  stateJson := none
  format := .json
  verbose := false
  command := .check

theorem scan_plain {cs : List Char} (hplain : ∀ c ∈ cs, c.toNat < 0x80) :
    Text.Utf8.scan none (cs.map (fun c => UInt8.ofNat c.toNat)) = cs.map some := by
  induction cs with
  | nil => rfl
  | cons c rest ih =>
      have hc := hplain c List.mem_cons_self
      have hoctet : (UInt8.ofNat c.toNat).toNat = c.toNat :=
        UInt8.toNat_ofNat_of_lt' (Nat.lt_trans hc (by decide))
      have hlead : Text.Utf8.lead (UInt8.ofNat c.toNat).toNat = .single c := by
        rw [hoctet, Text.Utf8.lead, if_pos hc, Char.ofNat_toNat]
      simp only [List.map_cons, Text.Utf8.scan, hlead,
        ih (fun d hd => hplain d (List.mem_cons_of_mem c hd))]

theorem loadConnector_filesOf (text : String) (hplain : ∀ c ∈ text.toList, c.toNat < 0x80) :
    plainCheck.loadConnector (filesOf text) = ConnectorDefinition.load text := by
  have hdecoded : Text.Utf8.decode? (text.toList.map (fun c => UInt8.ofNat c.toNat)) =
      some text.toList := by
    rw [Text.Utf8.decode?, scan_plain hplain]
    generalize text.toList = cs
    induction cs with
    | nil => rfl
    | cons c rest ih => simp [ih]
  have hrequire : (filesOf text).require "connector" "a" = .ok text := by
    simp only [Files.require, Files.text, filesOf, hdecoded, String.ofList_toList]
    rfl
  simp only [Invocation.loadConnector, Invocation.connectorPath, plainCheck, bind, Except.bind,
    hrequire]

/-- What the connector makes of an empty configuration: the secrets that are registered, its
secret property, and the authenticator of its client. -/
theorem load_facts :
    (ConnectorDefinition.load connector).toOption.map (fun d =>
      let s : Session := ⟨d, .object []⟩
      (s.secrets.values, d.properties.entries.any (fun p => p.1 == "k" && p.2.secret),
        (s.resolved.member? "k").bind Value.string?,
        (d.client (.ofConfig s.resolved)).toOption.map Http.Client.authenticator)) =
      some (["k1", "t-k1"], true, some "k1", some (.bearer "t-k1")) := by
  decide +kernel

theorem load_connector : ∃ d, plainCheck.loadConnector files = .ok d ∧
    (Session.mk d (.object [])).secrets.values = ["k1", "t-k1"] ∧
    d.Confidential (Session.mk d (.object [])).resolved "k1" ∧
    d.Confidential (Session.mk d (.object [])).resolved "t-k1" := by
  have hletters : connector.toList.all (fun c => c.toNat < 0x80) = true := by decide +kernel
  have hconnector := loadConnector_filesOf connector (by simpa using hletters)
  have hfacts := load_facts
  cases hload : ConnectorDefinition.load connector with
  | error f => rw [hload] at hfacts; cases hfacts
  | ok d =>
      rw [hload] at hfacts
      simp only [Except.toOption, Option.map_some, Option.some.injEq, Prod.mk.injEq] at hfacts
      obtain ⟨hsecrets, hproperty, hvalue, hclient⟩ := hfacts
      refine ⟨d, hconnector.trans hload, hsecrets, ?_, ?_⟩
      · obtain ⟨⟨name, p⟩, hp, hboth⟩ := List.any_eq_true.mp hproperty
        obtain ⟨hname, hsecret⟩ := Bool.and_eq_true_iff.mp hboth
        obtain ⟨value, hmember, htext⟩ := Option.bind_eq_some_iff.mp hvalue
        cases value <;> cases htext
        exact .value (beq_iff_eq.mp hname ▸ hp) hsecret hmember
      · cases hbuilt : d.client (.ofConfig (Session.mk d (.object [])).resolved) with
        | error f => rw [hbuilt] at hclient; cases hclient
        | ok client =>
            rw [hbuilt] at hclient
            have hauthenticator : client.authenticator = .bearer "t-k1" := Option.some.inj hclient
            exact .credential hbuilt (hauthenticator ▸ .token "t-k1")

end DiscretionExample

open DiscretionExample in
/-- A check under a configuration that leaves the secret to its default. -/
theorem run_hides_confidential_default :
    ∃ d, plainCheck.loadConnector files = .ok d ∧
      plainCheck.loadConfig files = .ok (.object []) ∧ plainCheck.command ≠ .validate ∧
      (∀ v ∈ (run .none plainCheck files .unlimited 0 .silent).secrets.values, '*' ∉ v.toList) ∧
      d.Confidential (Session.mk d (.object [])).resolved "k1" ∧
      d.Confidential (Session.mk d (.object [])).resolved "t-k1" ∧
      ∀ m ∈ (run .none plainCheck files .unlimited 0 .silent).messages, ∀ shown, m.Shows shown →
        ¬ "k1".toList <:+: shown.toList ∧ ¬ "t-k1".toList <:+: shown.toList := by
  obtain ⟨d, hconnector, hsecrets, hdefault, htoken⟩ := load_connector
  have hplain : ∀ v ∈ (run .none plainCheck files .unlimited 0 .silent).secrets.values,
      '*' ∉ v.toList := by
    rw [(run_discreet hconnector rfl nofun .unlimited 0 .silent).registered, hsecrets]
    decide
  have hhides := run_hides_confidential hconnector rfl nofun .unlimited 0 .silent hplain
  exact ⟨d, hconnector, rfl, nofun, hplain, hdefault, htoken, fun m hm shown hshown =>
    ⟨hhides m hm shown hshown _ hdefault (by decide),
      hhides m hm shown hshown _ htoken (by decide)⟩⟩

end CommandLine

end SourceSync
