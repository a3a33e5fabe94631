/-
What a source renders. Everything a source sends is made of the templates that stand in a few
places of its definition, and of the values of their variables. The rules hold these variables to
the declared properties in all places but one: the path that is declared for the check is never
looked at, so it is accepted even if it reads a property that nobody declared.
-/
import SourceSync.Proofs.Connector.Isolation

namespace SourceSync

open Json Http Template

/-- The places of a definition where templates stand. -/
inductive Place where
  | baseUrl
  | header
  | auth
  | checkPath
  | checkParam
  | path
  | streamHeader
  | streamParam
  deriving DecidableEq, Repr

variable {d : ConnectorDefinition} {c₁ c₂ : Context}

/-- The templates that a source renders. -/
inductive ConnectorDefinition.Renders (d : ConnectorDefinition) : Place → String → Prop where
  | baseUrl : Renders d .baseUrl d.baseUrl
  | header {h : String × String} (hheader : h ∈ d.headers) : Renders d .header h.2
  | auth {template : String} (htemplate : template ∈ d.auth.templates) : Renders d .auth template
  | checkPath {check : CheckDefinition} (hcheck : d.check = some check) :
      Renders d .checkPath check.path
  | checkParam {check : CheckDefinition} {p : String × String} (hcheck : d.check = some check)
      (hparam : p ∈ check.params) : Renders d .checkParam p.2
  | path {s : StreamDefinition} (hs : s ∈ d.streams) : Renders d .path s.path
  | streamHeader {s : StreamDefinition} {h : String × String} (hs : s ∈ d.streams)
      (hheader : h ∈ s.headers) : Renders d .streamHeader h.2
  | streamParam {s : StreamDefinition} {p : String × String} (hs : s ∈ d.streams)
      (hparam : p ∈ s.params) : Renders d .streamParam p.2

/-- Two contexts in which all variables of a template have the same values. -/
def Template.Context.AgreeOn (c₁ c₂ : Context) (template : String) : Prop :=
  ∀ name ∈ variableNames template, c₁.get? name = c₂.get? name

theorem Template.renderParams_congr {params : Table String}
    (hagree : ∀ p ∈ params, c₁.AgreeOn c₂ p.2) :
    renderParams params c₁ = renderParams params c₂ := by
  induction params with
  | nil => rfl
  | cons p rest ih =>
      have hp := hagree p List.mem_cons_self
      have hrest := ih (fun q hq => hagree q (List.mem_cons_of_mem p hq))
      rw [renderParams_cons, renderParams_cons, paramPairs, paramPairs, waitsOnState_congr hp,
        render_congr hp, hrest]

namespace ConnectorDefinition

theorem renderAll_congr_of_agreeOn {templates : Table String}
    (hagree : ∀ e ∈ templates, c₁.AgreeOn c₂ e.2) :
    renderAll c₁ templates = renderAll c₂ templates := by
  apply renderAll_congr
  intro e he
  exact render_congr (hagree e he)

/-- The credentials depend on the variables of the templates of authentication only. -/
theorem authenticator_congr (hagree : ∀ template ∈ d.auth.templates, c₁.AgreeOn c₂ template) :
    d.authenticator c₁ = d.authenticator c₂ := by
  have hrender : ∀ template ∈ d.auth.templates, render template c₁ = render template c₂ := by
    intro template htemplate
    exact render_congr (hagree template htemplate)
  unfold authenticator
  cases hauth : d.auth with
  | none => rfl
  | bearer token =>
      rw [hauth] at hrender
      simp only [hrender token List.mem_cons_self]
  | apiKey name value location =>
      rw [hauth] at hrender
      simp only [hrender name List.mem_cons_self,
        hrender value (List.mem_cons_of_mem _ List.mem_cons_self)]
  | basic username password =>
      rw [hauth] at hrender
      simp only [hrender username List.mem_cons_self,
        hrender password (List.mem_cons_of_mem _ List.mem_cons_self)]

/-- The check takes its templates from the check that is declared, or from the first stream. -/
theorem renders_of_checkTarget {target : String × SortedTable String}
    (htarget : d.checkTarget = .ok target) :
    (∃ place, d.Renders place target.1) ∧ ∀ p ∈ target.2, ∃ place, d.Renders place p.2 := by
  unfold checkTarget at htarget
  split at htarget
  · next check hcheck =>
      cases htarget
      exact ⟨⟨_, .checkPath hcheck⟩, fun p hp => ⟨_, .checkParam hcheck hp⟩⟩
  · split at htarget
    · cases htarget
    · next first rest hstreams =>
        cases htarget
        have hfirst : first ∈ d.streams := hstreams ▸ List.mem_cons_self
        exact ⟨⟨_, .path hfirst⟩, fun p hp => ⟨_, .streamParam hfirst hp⟩⟩

section Agreement

variable (hagree : ∀ place template, d.Renders place template → c₁.AgreeOn c₂ template)

include hagree

theorem client_congr : d.client c₁ = d.client c₂ := by
  have hbase : render d.baseUrl c₁ = render d.baseUrl c₂ := render_congr (hagree _ _ .baseUrl)
  have hheaders : renderAll c₁ d.headers.entries = renderAll c₂ d.headers.entries := by
    apply renderAll_congr_of_agreeOn
    intro h hh
    exact hagree _ _ (.header hh)
  have hauth : d.authenticator c₁ = d.authenticator c₂ := by
    apply authenticator_congr
    intro template htemplate
    exact hagree _ _ (.auth htemplate)
  rw [client, client, hbase, hheaders, hauth]

theorem checkRequest_congr : d.checkRequest c₁ = d.checkRequest c₂ := by
  unfold checkRequest
  cases htarget : d.checkTarget with
  | error f => rfl
  | ok target =>
      obtain ⟨⟨place, hpath⟩, hparams⟩ := renders_of_checkTarget htarget
      have hquery : renderParams target.2.entries c₁ = renderParams target.2.entries c₂ := by
        apply renderParams_congr
        intro p hp
        obtain ⟨place, hparam⟩ := hparams p hp
        exact hagree _ _ hparam
      simp only [bind, Except.bind, render_congr (hagree _ _ hpath), hquery]

theorem request_congr {s : StreamDefinition} (hs : s ∈ d.streams) (token : Option String) :
    s.request c₁ token = s.request c₂ token := by
  have hpath : render s.path c₁ = render s.path c₂ := render_congr (hagree _ _ (.path hs))
  have hparams : renderParams s.params.entries c₁ = renderParams s.params.entries c₂ := by
    apply renderParams_congr
    intro p hp
    exact hagree _ _ (.streamParam hs hp)
  have hheaders : renderAll c₁ s.headers.entries = renderAll c₂ s.headers.entries := by
    apply renderAll_congr_of_agreeOn
    intro h hh
    exact hagree _ _ (.streamHeader hs hh)
  unfold StreamDefinition.request
  rw [hpath, hparams, hheaders]

end Agreement

/-- All templates that are rendered are looked at, but the path of the check. -/
theorem exists_template_of_renders {place : Place} {template : String}
    (hrenders : d.Renders place template) (hplace : place ≠ .checkPath) :
    ∃ t ∈ d.templates, t.template = template := by
  simp only [templates, List.mem_append, List.mem_cons, List.mem_map, List.mem_flatMap]
  cases hrenders with
  | baseUrl => exact ⟨_, Or.inl (Or.inl (Or.inl (Or.inl rfl))), rfl⟩
  | header hheader => exact ⟨_, Or.inl (Or.inl (Or.inl (Or.inr ⟨_, hheader, rfl⟩))), rfl⟩
  | auth htemplate => exact ⟨_, Or.inl (Or.inl (Or.inr ⟨_, htemplate, rfl⟩)), rfl⟩
  | checkPath hcheck => exact absurd rfl hplace
  | checkParam hcheck hparam =>
      rw [hcheck]
      exact ⟨_, Or.inl (Or.inr (List.mem_map_of_mem hparam)), rfl⟩
  | path hs =>
      exact ⟨_, Or.inr ⟨_, hs, List.mem_append_left _ List.mem_cons_self⟩, rfl⟩
  | streamHeader hs hheader =>
      exact ⟨_, Or.inr ⟨_, hs, List.mem_append_left _
        (List.mem_cons_of_mem _ (List.mem_map_of_mem hheader))⟩, rfl⟩
  | streamParam hs hparam =>
      exact ⟨_, Or.inr ⟨_, hs, List.mem_append_right _ (List.mem_map_of_mem hparam)⟩, rfl⟩

/-- Under the rules, a listed template reads declared properties only, if any is declared. -/
theorem has_of_valid (hvalid : d.validate = .ok ()) (hproperties : d.properties ≠ ∅)
    {t : PlacedTemplate} (ht : t ∈ d.templates) {name key : String}
    (hname : name ∈ variableNames t.template) (hkey : property? name = some key) :
    d.properties.has key = true := by
  obtain ⟨⟨⟩, -, hrule⟩ := exists_of_bind_ok (validateVariable_of_valid hvalid ht hname)
  rw [hkey] at hrule
  have hdeclared := of_ensure hrule
  simpa [hproperties] using hdeclared

/-- An accepted connector that declares a property reads declared properties only, wherever a
template stands but in the path of the check. No other templates matter: where the variables of
those that are rendered have the same values, the client, the request of the check and all
requests of the streams are the same. -/
theorem rendered_properties_declared (hvalid : d.validate = .ok ())
    (hproperties : d.properties ≠ ∅) :
    (∀ place template, d.Renders place template → place ≠ .checkPath →
      ∀ name ∈ variableNames template, ∀ key, property? name = some key →
        d.properties.has key = true) ∧
    ∀ c₁ c₂ : Context, (∀ place template, d.Renders place template → c₁.AgreeOn c₂ template) →
      d.client c₁ = d.client c₂ ∧ d.checkRequest c₁ = d.checkRequest c₂ ∧
      ∀ s ∈ d.streams, ∀ token, s.request c₁ token = s.request c₂ token := by
  constructor
  · intro place template hrenders hplace name hname key hkey
    obtain ⟨t, ht, rfl⟩ := exists_template_of_renders hrenders hplace
    exact has_of_valid hvalid hproperties ht hname hkey
  · intro c₁ c₂ hagree
    refine ⟨client_congr hagree, checkRequest_congr hagree, ?_⟩
    intro s hs token
    exact request_congr hagree hs token

end ConnectorDefinition

namespace RenderingExample

def stream : StreamDefinition :=
  ⟨"s", "/s/\x7b\x7b config.account.id \x7d\x7d", ∅, ∅, "", none, none, none⟩

/-- A connector that declares one property, with a check at some path. -/
def definition (checkPath : String) : ConnectorDefinition where
  name := "accounts"
  version := ConnectorDefinition.initialVersion
  baseUrl := "http://[::1]"
  properties := .ofEntries [("account", ⟨none, none, false, true, none⟩)]
  auth := .bearer "\x7b\x7b config.account.token \x7d\x7d"
  http := .standard
  check := some ⟨checkPath, ∅⟩
  headers := ∅
  streams := [stream]

/-- A path that reads a property nobody declared. -/
def strayPath : String := "/check/\x7b\x7b config.tenant \x7d\x7d"

theorem properties_ne (checkPath : String) : (definition checkPath).properties ≠ ∅ := by
  intro hnone
  exact List.cons_ne_nil _ _ (congrArg SortedTable.entries hnone)

end RenderingExample

open RenderingExample in
/-- The path of a stream reads a part of the declared property. -/
theorem ConnectorDefinition.rendered_properties_declared_part :
    (definition "/check").validate = .ok () ∧ (definition "/check").properties ≠ ∅ ∧
    (definition "/check").Renders .path stream.path ∧
    "config.account.id" ∈ variableNames stream.path ∧
    property? "config.account.id" = some "account" ∧
    (definition "/check").properties.has "account" = true := by
  have hvalid : (definition "/check").validate = .ok () := rfl
  have hrenders : (definition "/check").Renders .path stream.path := .path List.mem_cons_self
  have hname : "config.account.id" ∈ variableNames stream.path := by decide +kernel
  have hkey : property? "config.account.id" = some "account" := rfl
  obtain ⟨hdeclared, -⟩ := rendered_properties_declared hvalid (properties_ne "/check")
  exact ⟨hvalid, properties_ne "/check", hrenders, hname, hkey,
    hdeclared .path _ hrenders nofun _ hname _ hkey⟩

open RenderingExample in
/-- The path of a check may read a property that is not declared: the connector is accepted, and
the request of the check then depends on that property. -/
theorem ConnectorDefinition.check_path_reads_undeclared :
    (definition strayPath).validate = .ok () ∧ (definition strayPath).properties ≠ ∅ ∧
    (definition strayPath).Renders .checkPath strayPath ∧
    "config.tenant" ∈ variableNames strayPath ∧ property? "config.tenant" = some "tenant" ∧
    (definition strayPath).properties.has "tenant" = false ∧
    (definition strayPath).checkRequest (.ofConfig (.object [("tenant", .string "t")])) =
      .ok ⟨"/check/t", [], []⟩ := by
  have hcheck : (definition strayPath).check = some ⟨strayPath, ∅⟩ := rfl
  have hrenders : (definition strayPath).Renders .checkPath strayPath := .checkPath hcheck
  have hname : "config.tenant" ∈ variableNames strayPath := by decide +kernel
  exact ⟨rfl, properties_ne strayPath, hrenders, hname, rfl, rfl, rfl⟩

end SourceSync
