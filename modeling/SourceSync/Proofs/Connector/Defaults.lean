/-
What defaults do to secrets. A configuration is completed with defaults before a source uses it,
and the secrets of the completed configuration are all that the client sends and all that secret
properties hold. The secrets of the configuration as it was given are not: the default of a secret
property is missing there, and so is a credential that is made with a default.
-/
import SourceSync.Proofs.Connector.Credentials
import SourceSync.Proofs.Connector.Reading
import SourceSync.Proofs.Connector.Rendering

namespace SourceSync

open Json Http Template

namespace ConnectorDefinition

variable {d : ConnectorDefinition} {config resolved : Value} {key name : String}

/-- What one property adds when members are completed: its default where the members have nothing
but perhaps null under its name, and nothing in all other cases. -/
theorem completed_cons_cases {p : PropertyDefinition} {rest : Table PropertyDefinition}
    {members filled : Object} (hcompleted : completed ((name, p) :: rest) members = .ok filled) :
    completed rest members = .ok filled ∨
      ∃ v, p.default = some v ∧ (∀ old, Table.get? name members = some old → old = .null) ∧
        completed rest (Table.put name v members) = .ok filled := by
  rw [completed] at hcompleted
  by_cases hpresent : (Table.get? name members).any (fun v => !v.isNull) = true
  · rw [if_pos hpresent] at hcompleted
    exact Or.inl hcompleted
  · rw [if_neg hpresent] at hcompleted
    cases hdefault : p.default with
    | none =>
        rw [hdefault] at hcompleted
        by_cases hrequired : p.required = true
        · rw [if_pos hrequired] at hcompleted
          cases hcompleted
        · rw [if_neg hrequired] at hcompleted
          exact Or.inl hcompleted
    | some v =>
        rw [hdefault] at hcompleted
        refine Or.inr ⟨v, rfl, ?_, hcompleted⟩
        intro old hold
        cases old with
        | null => rfl
        | _ => simp [hold, Value.isNull] at hpresent

/-- Completing keeps what the members say of a key, unless they have nothing but perhaps null there;
then the default of a property with that name may take its place. -/
theorem get?_completed {ps : Table PropertyDefinition} {members filled : Object}
    (hcompleted : completed ps members = .ok filled) (key : String) :
    Table.get? key filled = Table.get? key members ∨
      (∀ old, Table.get? key members = some old → old = .null) ∧
        ∃ p v, (key, p) ∈ ps ∧ p.default = some v ∧ Table.get? key filled = some v := by
  -- a default that was put in is among the members by the time the next property is looked at
  induction ps generalizing members with
  | nil =>
      cases hcompleted
      exact Or.inl rfl
  | cons property rest ih =>
      obtain ⟨name, p⟩ := property
      rcases completed_cons_cases hcompleted with hrest | ⟨v, hdefault, hlacks, hrest⟩
      · apply (ih hrest).imp id
        rintro ⟨hlacks, q, w, hq, hw⟩
        exact ⟨hlacks, q, w, List.mem_cons_of_mem _ hq, hw⟩
      · have hput := Table.get?_put name key v members
        by_cases hkey : name = key
        · subst hkey
          rw [if_pos rfl] at hput
          refine Or.inr ⟨hlacks, ?_⟩
          rcases ih hrest with hkept | ⟨-, q, w, hq, hw⟩
          · exact ⟨p, v, List.mem_cons_self, hdefault, hkept.trans hput⟩
          · exact ⟨q, w, List.mem_cons_of_mem _ hq, hw⟩
        · rw [if_neg hkey] at hput
          have hrest := ih hrest
          rw [hput] at hrest
          apply hrest.imp id
          rintro ⟨hlacks, q, w, hq, hw⟩
          exact ⟨hlacks, q, w, List.mem_cons_of_mem _ hq, hw⟩

/-- A configuration is completed by completing its members; null counts as one that has none. -/
theorem exists_of_resolveConfig (hresolved : d.resolveConfig config = .ok resolved) :
    ∃ members filled, (∀ key, config.member? key = Table.get? key members) ∧
      completed d.properties.entries members = .ok filled ∧ resolved = .object filled := by
  have hobject {members : Object}
      (hcompleted : (completed d.properties.entries members).map Value.object = .ok resolved) :
      ∃ filled, completed d.properties.entries members = .ok filled ∧
        resolved = .object filled := by
    cases hfilled : completed d.properties.entries members with
    | error f =>
        rw [hfilled] at hcompleted
        cases hcompleted
    | ok filled =>
        rw [hfilled] at hcompleted
        cases hcompleted
        exact ⟨filled, rfl, rfl⟩
  unfold resolveConfig at hresolved
  cases config with
  | object members => exact ⟨members, (hobject hresolved).imp fun _ h => ⟨fun _ => rfl, h⟩⟩
  | null => exact ⟨[], (hobject hresolved).imp fun _ h => ⟨fun _ => rfl, h⟩⟩
  | _ => cases hresolved

/-- The default of a property that a configuration leaves out: it has nothing under its name, or
null. -/
structure DefaultFor (d : ConnectorDefinition) (config : Value) (key : String) (v : Value) :
    Prop where
  leftOut : ∀ old, config.member? key = some old → old = .null
  declared : ∃ p, (key, p) ∈ d.properties ∧ p.default = some v

/-- A member of the completed configuration is what was given, or a default. -/
theorem member?_resolved (hresolved : d.resolveConfig config = .ok resolved) (key : String) :
    resolved.member? key = config.member? key ∨
      ∃ v, d.DefaultFor config key v ∧ resolved.member? key = some v := by
  obtain ⟨members, filled, hmembers, hcompleted, rfl⟩ := exists_of_resolveConfig hresolved
  rcases get?_completed hcompleted key with hkept | ⟨hlacks, p, v, hp, hdefault, hv⟩
  · left
    exact hkept.trans (hmembers key).symm
  · right
    refine ⟨v, ⟨?_, p, hp, hdefault⟩, hv⟩
    intro old hold
    apply hlacks
    rw [← hmembers]
    exact hold

/-- A variable that may read a default: it names a property that the configuration leaves out, or
the configuration as a whole, which is not complete. -/
def ReadsDefault (d : ConnectorDefinition) (config : Value) (name : String) : Prop :=
  match Path.keys name.toList with
  | ["config"] => d.resolveConfig config ≠ .ok config
  | "config" :: key :: _ => ∃ v, d.DefaultFor config key v
  | _ => False

/-- All other variables read what was given. -/
theorem get?_resolved (hresolved : d.resolveConfig config = .ok resolved)
    (hgiven : ¬ d.ReadsDefault config name) :
    (Context.ofConfig config).get? name = (Context.ofConfig resolved).get? name := by
  unfold ReadsDefault at hgiven
  unfold Context.get? Context.ofConfig
  split at hgiven
  · next hkeys =>
      have hcomplete := hresolved.symm.trans (Classical.not_not.mp hgiven)
      cases hcomplete
      rfl
  · next key rest hkeys =>
      simp only [hkeys]
      rcases member?_resolved hresolved key with hkept | ⟨v, hdefault, -⟩
      · rw [Value.follow?, Value.follow?, hkept]
      · exact absurd ⟨v, hdefault⟩ hgiven
  · next hroot hbelow =>
      split
      · next rest hkeys =>
          cases rest with
          | nil => exact (hroot hkeys).elim
          | cons key rest => exact (hbelow key rest hkeys).elim
      · rfl
      · rfl

/-- Whatever the client of a source is authenticated with, and whatever text a secret property
holds, is a secret of the completed configuration. It is a secret of the given configuration as
well, unless a template of the credentials may read a default, or the text is itself a default. -/
theorem secrets_cover_unless_default {streams : List (DataStream Network)}
    (hstreams : d.dataStreams config = .ok streams) :
    ∃ resolved client, d.resolveConfig config = .ok resolved ∧
      d.client (.ofConfig resolved) = .ok client ∧ streams = d.built client resolved ∧
      (∀ v, client.authenticator.Attaches v → v ≠ "" → v ∈ d.secrets resolved ∧
        (v ∈ d.secrets config ∨ ∃ template ∈ d.auth.templates,
          ∃ name ∈ variableNames template, d.ReadsDefault config name)) ∧
      ∀ key p v, (key, p) ∈ d.properties → p.secret = true →
        resolved.member? key = some (.string v) → v ≠ "" → v ∈ d.secrets resolved ∧
          (v ∈ d.secrets config ∨ d.DefaultFor config key (.string v)) := by
  obtain ⟨resolved, client, hresolved, hclient, rfl⟩ := exists_of_dataStreams hstreams
  refine ⟨resolved, client, hresolved, hclient, rfl, ?_, ?_⟩
  · intro v hattaches hv
    refine ⟨(Confidential.credential hclient hattaches).mem_secrets hv, ?_⟩
    by_cases hdefault : ∃ template ∈ d.auth.templates,
        ∃ name ∈ variableNames template, d.ReadsDefault config name
    · exact Or.inr hdefault
    · have hsame : d.authenticator (.ofConfig config) = d.authenticator (.ofConfig resolved) := by
        apply authenticator_congr
        intro template htemplate name hname
        apply get?_resolved hresolved
        intro hreads
        exact hdefault ⟨template, htemplate, name, hname, hreads⟩
      have hauthenticator := hsame.trans (authenticator_of_client hclient)
      exact Or.inl (mem_secrets_iff.mpr ⟨hv, Or.inr ⟨_, hauthenticator, hattaches⟩⟩)
  · intro key p v hproperty hsecret hvalue hv
    refine ⟨(Confidential.value hproperty hsecret hvalue).mem_secrets hv, ?_⟩
    rcases member?_resolved hresolved key with hkept | ⟨w, hdefault, hw⟩
    · have hgiven := hkept.symm.trans hvalue
      exact Or.inl ((Confidential.value hproperty hsecret hgiven).mem_secrets hv)
    · cases hw.symm.trans hvalue
      exact Or.inr hdefault

end ConnectorDefinition

namespace DefaultsExample

/-- A connector with a secret property that has a default, another property with one, and a token
that is made of the secret property. -/
def definition : ConnectorDefinition where
  name := "accounts"
  version := ConnectorDefinition.initialVersion
  baseUrl := "http://[::1]"
  properties := ⟨[("key", ⟨none, none, true, false, some (.string "k1")⟩),
    ("page", ⟨none, none, false, false, some (Value.nat 50)⟩)], by decide⟩
  auth := .bearer "t-\x7b\x7b config.key \x7d\x7d"
  http := .standard
  check := none
  headers := ∅
  streams := [⟨"s", "/s", ∅, ∅, "", none, none, none⟩]

def given : Value := .object [("key", .string "k2")]

/-- What a configuration becomes when it is completed. -/
def withPage (key : String) : Value := .object [("key", .string key), ("page", Value.nat 50)]

def clientFor (key : String) : Client :=
  ⟨.forBase "http://[::1]", .bearer ("t-" ++ key)⟩

theorem resolve_given : definition.resolveConfig given = .ok (withPage "k2") := rfl

theorem client_given :
    definition.client (.ofConfig (withPage "k2")) = .ok (clientFor "k2") := by
  rfl

theorem not_readsDefault_given : ¬ ∃ template ∈ definition.auth.templates,
    ∃ name ∈ variableNames template, definition.ReadsDefault given name := by
  have hnames : variableNames "t-\x7b\x7b config.key \x7d\x7d" = ["config.key"] := rfl
  have hkeys : Path.keys "config.key".toList = ["config", "key"] := rfl
  rintro ⟨template, htemplate, name, hname, hreads⟩
  cases List.mem_singleton.mp htemplate
  rw [hnames, List.mem_singleton] at hname
  rw [hname, ConnectorDefinition.ReadsDefault, hkeys] at hreads
  obtain ⟨v, hdefault⟩ := hreads
  cases hdefault.leftOut _ rfl

end DefaultsExample

open DefaultsExample in
/-- A key that is given is registered, and so is the token made of it, though another property is
left to its default. -/
theorem ConnectorDefinition.secrets_cover_unless_default_given :
    definition.dataStreams given = .ok (definition.built (clientFor "k2") (withPage "k2")) ∧
    (clientFor "k2").authenticator.Attaches "t-k2" ∧ "t-k2" ∈ definition.secrets given ∧
    "k2" ∈ definition.secrets given := by
  have hstreams : definition.dataStreams given =
      .ok (definition.built (clientFor "k2") (withPage "k2")) := rfl
  obtain ⟨resolved, client, hresolved, hclient, -, hcredentials, hvalues⟩ :=
    secrets_cover_unless_default hstreams
  cases resolve_given.symm.trans hresolved
  cases client_given.symm.trans hclient
  have hattaches : (clientFor "k2").authenticator.Attaches "t-k2" := .token "t-k2"
  have htoken := (hcredentials "t-k2" hattaches (by decide)).2.resolve_right not_readsDefault_given
  have hkey := (hvalues "key" _ "k2" List.mem_cons_self rfl rfl (by decide)).2.resolve_right
    (fun hdefault => nomatch hdefault.leftOut _ rfl)
  exact ⟨hstreams, hattaches, htoken, hkey⟩

open DefaultsExample in
/-- A key that is left to its default is not registered, and neither is the token that the client
sends. -/
theorem ConnectorDefinition.default_secret_unregistered :
    definition.dataStreams (.object []) =
      .ok (definition.built (clientFor "k1") (withPage "k1")) ∧
    definition.resolveConfig (.object []) = .ok (withPage "k1") ∧
    (withPage "k1").member? "key" = some (.string "k1") ∧
    (clientFor "k1").authenticator.Attaches "t-k1" ∧ definition.secrets (.object []) = [] := by
  exact ⟨rfl, rfl, rfl, .token "t-k1", rfl⟩

end SourceSync
