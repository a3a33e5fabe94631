/-
What a connector keeps secret. Registered for a configuration are the values of secret
properties and the credentials of the authenticator. The client is built elsewhere, but
from the same templates and the same configuration, so it carries no other credentials.
-/
import SourceSync.Connector.Source
import SourceSync.Proofs.Table

namespace SourceSync

open Json Http

namespace Http.Authenticator

/-- The credentials that requests are authenticated with. A user name counts as part of what
is encoded only. -/
inductive Attaches : Authenticator → String → Prop where
  | token (token : String) : Attaches (.bearer token) token
  | key (name value : String) (location : KeyLocation) :
      Attaches (.apiKey name value location) value
  | password (username password : String) : Attaches (.basic username password) password
  | encoded (username password : String) :
      Attaches (.basic username password) (basicToken username password)

variable {a : Authenticator} {v : String}

theorem mem_credentials_iff : v ∈ a.credentials ↔ a.Attaches v := by
  constructor
  · intro hv
    cases a with
    | none => cases hv
    | bearer token =>
        rw [List.mem_singleton.mp hv]
        exact .token token
    | apiKey name value location =>
        rw [List.mem_singleton.mp hv]
        exact .key name value location
    | basic username password =>
        simp only [credentials, List.mem_cons, List.not_mem_nil, or_false] at hv
        rcases hv with rfl | rfl
        · exact .password username v
        · exact .encoded username password
  · intro hattaches
    cases hattaches <;> simp [credentials]

end Http.Authenticator

namespace ConnectorDefinition

variable {d : ConnectorDefinition} {config : Value} {client : Client} {v : String}

/-- What must not be shown under a configuration: the text it gives to a secret property, and
each credential of its client. -/
inductive Confidential (d : ConnectorDefinition) (config : Value) : String → Prop where
  | value {name v : String} {p : PropertyDefinition} (hproperty : (name, p) ∈ d.properties)
      (hsecret : p.secret = true) (hvalue : config.member? name = some (.string v)) :
      Confidential d config v
  | credential {client : Client} {v : String} (hclient : d.client (.ofConfig config) = .ok client)
      (hattaches : client.authenticator.Attaches v) : Confidential d config v

theorem mem_inOrder {texts : List String} : v ∈ inOrder texts ↔ v ∈ texts := by
  simp [inOrder, Table.mem_keys_ofList]

/-- The texts that are registered for a configuration. -/
theorem mem_secrets_iff :
    v ∈ d.secrets config ↔ v ≠ "" ∧ (v ∈ d.secretValues config ∨
      ∃ a, d.authenticator (.ofConfig config) = .ok a ∧ a.Attaches v) := by
  rw [secrets, mem_inOrder, List.mem_filter, List.mem_append]
  cases d.authenticator (.ofConfig config) with
  | error f => simp [and_comm]
  | ok a => simp [and_comm, Authenticator.mem_credentials_iff]

theorem authenticator_of_build {settings : ClientSettings} {a : Authenticator}
    (hbuild : Client.build settings a = .ok client) : client.authenticator = a := by
  unfold Client.build at hbuild
  split at hbuild
  · cases hbuild
    rfl
  · split at hbuild <;> cases hbuild
    rfl

/-- A client carries the authenticator of its configuration. -/
theorem authenticator_of_client {c : Template.Context} (hclient : d.client c = .ok client) :
    d.authenticator c = .ok client.authenticator := by
  obtain ⟨baseUrl, -, hclient⟩ := exists_of_bind_ok hclient
  obtain ⟨headers, -, hclient⟩ := exists_of_bind_ok hclient
  obtain ⟨a, hauthenticator, hbuild⟩ := exists_of_bind_ok hclient
  rw [hauthenticator, authenticator_of_build hbuild]

/-- What must not be shown is registered, unless it is nothing. -/
theorem Confidential.mem_secrets (hconfidential : d.Confidential config v) (hv : v ≠ "") :
    v ∈ d.secrets config := by
  rw [mem_secrets_iff]
  refine ⟨hv, ?_⟩
  cases hconfidential with
  | value hproperty hsecret hvalue =>
      refine Or.inl (List.mem_filterMap.mpr ⟨_, hproperty, ?_⟩)
      simp only [hsecret, if_true, hvalue]
      rfl
  | credential hclient hattaches =>
      exact Or.inr ⟨_, authenticator_of_client hclient, hattaches⟩

end ConnectorDefinition

end SourceSync
