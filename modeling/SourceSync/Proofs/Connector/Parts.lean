/-
Parts of secret values. The value of a secret property is registered as one text, and that is the
text a template renders for the property, whatever the kind of the value. A template may also
reach into the value; what it renders then is masked exactly if the part shows a registered text,
and a part of its own is none.
-/
import Mathlib.Tactic.ByContra
import SourceSync.Proofs.Connector.Credentials
import SourceSync.Proofs.Masking.Pieces

namespace SourceSync

open Json Http Template

namespace Secrets

/-- Masking hides a text in all messages exactly if the text shows one of the secrets. -/
theorem redactWith_hides_iff {values : List String} (hplain : ∀ s ∈ values, '*' ∉ s.toList)
    (hnonempty : ∀ s ∈ values, s ≠ "") (text : String) :
    (∀ message, ¬ text.toList <:+: (redactWith values message).toList) ↔
      ∃ s ∈ values, s.toList <:+: text.toList := by
  constructor
  · intro hhidden
    by_contra hnone
    have hshown : redactWith values text = text := by
      apply redactWith_absent
      intro s hs _ hinside
      exact hnone ⟨s, hs, hinside⟩
    apply hhidden text
    exact ⟨[], [], by simp [hshown]⟩
  · rintro ⟨s, hs, hinside⟩ message hshown
    exact not_isInfix_redactWith hplain hs (hnonempty s hs) message (hinside.trans hshown)

end Secrets

namespace ConnectorDefinition

variable {d : ConnectorDefinition} {config v : Value} {key name : String} {p : PropertyDefinition}
  {rest : List String}

/-- What is registered for a value is what a template renders for it, unless that is nothing. -/
theorem secretText?_eq (hv : valueText v ≠ "") : secretText? v = some (valueText v) := by
  cases v with
  | null => exact absurd rfl hv
  | _ => rfl

/-- What a template renders for a secret property is registered. -/
theorem valueText_mem_secrets (hproperty : (key, p) ∈ d.properties) (hsecret : p.secret = true)
    (hvalue : config.member? key = some v) (hv : valueText v ≠ "") :
    valueText v ∈ d.secrets config := by
  rw [mem_secrets_iff]
  refine ⟨hv, Or.inl (List.mem_filterMap.mpr ⟨(key, p), hproperty, ?_⟩)⟩
  rw [if_pos hsecret, hvalue]
  exact secretText?_eq hv

/-- The text that a template renders for a secret property is masked in every message. For a part
of the value, reached through further keys, that holds exactly if the text of the part shows a
registered text. -/
theorem rendered_secret_masked (hproperty : (key, p) ∈ d.properties) (hsecret : p.secret = true)
    (hname : Path.keys name.toList = "config" :: key :: rest)
    (hvalue : (Context.ofConfig config).get? name = some v) (hv : valueText v ≠ "")
    (hplain : ∀ s ∈ d.secrets config, '*' ∉ s.toList) :
    (rest = [] → ∀ message,
      ¬ (valueText v).toList <:+: (Secrets.redactWith (d.secrets config) message).toList) ∧
    ((∀ message,
      ¬ (valueText v).toList <:+: (Secrets.redactWith (d.secrets config) message).toList) ↔
        ∃ s ∈ d.secrets config, s.toList <:+: (valueText v).toList) := by
  have hhides := Secrets.redactWith_hides_iff hplain (fun s hs => (mem_secrets_iff.mp hs).1)
    (valueText v)
  refine ⟨?_, hhides⟩
  rintro rfl
  rw [hhides]
  have hmember : config.member? key = some v := by
    rw [Context.get?, hname] at hvalue
    simpa [Context.ofConfig, Value.follow?] using hvalue
  exact ⟨_, valueText_mem_secrets hproperty hsecret hmember hv, List.infix_rfl⟩

end ConnectorDefinition

namespace PartsExample

def account : PropertyDefinition := ⟨some "object", none, true, true, none⟩

/-- A connector whose stream is found through a part of the secret property. -/
def definition : ConnectorDefinition where
  name := "accounts"
  version := ConnectorDefinition.initialVersion
  baseUrl := "http://[::1]"
  properties := .ofEntries [("account", account)]
  auth := .none
  http := .standard
  check := none
  headers := ∅
  streams := [⟨"s", "/s/\x7b\x7b config.account.token \x7d\x7d", ∅, ∅, "", none, none, none⟩]

/-- A configuration with a structured value for the secret property. -/
def config : Value := .object [("account", .object [("token", .string "abc")])]

theorem secrets_config : definition.secrets config = ["\x7b\"token\":\"abc\"\x7d"] := by
  decide +kernel

theorem secrets_plain : ∀ s ∈ definition.secrets config, '*' ∉ s.toList := by
  rw [secrets_config]
  decide

end PartsExample

open PartsExample in
/-- The structured value as a whole is masked wherever it is shown. -/
theorem ConnectorDefinition.rendered_secret_masked_whole :
    ("account", account) ∈ definition.properties ∧ account.secret = true ∧
    Path.keys "config.account".toList = ["config", "account"] ∧
    (Context.ofConfig config).get? "config.account" = some (.object [("token", .string "abc")]) ∧
    valueText (.object [("token", .string "abc")]) = "\x7b\"token\":\"abc\"\x7d" ∧
    (∀ s ∈ definition.secrets config, '*' ∉ s.toList) ∧
    ∀ message, ¬ "\x7b\"token\":\"abc\"\x7d".toList <:+:
      (Secrets.redactWith (definition.secrets config) message).toList := by
  have hproperty : ("account", account) ∈ definition.properties := List.mem_cons_self
  have hkeys : Path.keys "config.account".toList = ["config", "account"] := rfl
  have hvalue : (Context.ofConfig config).get? "config.account" =
      some (.object [("token", .string "abc")]) := rfl
  have htext : valueText (.object [("token", .string "abc")]) =
      "\x7b\"token\":\"abc\"\x7d" := rfl
  have hne : valueText (.object [("token", .string "abc")]) ≠ "" := by
    rw [htext]
    decide
  obtain ⟨hmasked, -⟩ :=
    rendered_secret_masked hproperty rfl hkeys hvalue hne secrets_plain
  exact ⟨hproperty, rfl, hkeys, hvalue, htext, secrets_plain, htext ▸ hmasked rfl⟩

open PartsExample in
/-- A part of the structured value is shown as it is, though a template of the connector renders
it and no asterisk is in the way. -/
theorem ConnectorDefinition.secret_part_visible :
    ("account", account) ∈ definition.properties ∧ account.secret = true ∧
    (Context.ofConfig config).get? "config.account.token" = some (.string "abc") ∧
    valueText (.string "abc") = "abc" ∧ '*' ∉ "abc".toList ∧
    (∀ s ∈ definition.secrets config, '*' ∉ s.toList) ∧
    Secrets.redactWith (definition.secrets config) "no account for abc" = "no account for abc" := by
  refine ⟨List.mem_cons_self, rfl, rfl, rfl, by decide, secrets_plain, ?_⟩
  apply Secrets.redactWith_absent
  intro s hs _ hinside
  rw [secrets_config, List.mem_singleton] at hs
  have hbrace : '\x7b' ∈ "no account for abc".toList := hinside.subset (hs ▸ List.mem_cons_self)
  exact absurd hbrace (by decide)

end SourceSync
