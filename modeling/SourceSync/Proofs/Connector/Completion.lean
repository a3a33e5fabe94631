/-
Completing a configuration. It fails for one that is neither an object nor null, and for one that
leaves out a required property without a default; otherwise each property that is left out gets
its default and nothing else changes. Defaults of different properties do not meet, so it makes no
difference in which order they are put in, or that they are put in again.
-/
import SourceSync.Proofs.Connector.Defaults
import SourceSync.Proofs.Table

namespace SourceSync

open Json Http

namespace ConnectorDefinition

section Members

variable {members : Object} {p q : String × PropertyDefinition} {ps : Table PropertyDefinition}
  {key : String}

/-- Whether members have nothing under a key, or null. -/
def leavesOut (members : Object) (key : String) : Bool :=
  !(Table.get? key members).any (fun v => !v.isNull)

/-- The members with the default of a property, if it has one and they leave it out. -/
def supplied (members : Object) (p : String × PropertyDefinition) : Object :=
  match p.2.default with
  | some v => if leavesOut members p.1 then Table.put p.1 v members else members
  | none => members

/-- Whether members leave out a property that is required and has no default. -/
def lacks (members : Object) (p : String × PropertyDefinition) : Bool :=
  p.2.required && p.2.default.isNone && leavesOut members p.1

theorem leavesOut_iff :
    leavesOut members key = true ↔ ∀ old, Table.get? key members = some old → old = .null := by
  unfold leavesOut
  cases hget : Table.get? key members with
  | none => simp
  | some old => cases old <;> simp [Value.isNull]

theorem supplied_cases (members : Object) (p : String × PropertyDefinition) :
    supplied members p = members ∨ ∃ v, p.2.default = some v ∧ leavesOut members p.1 = true ∧
      supplied members p = Table.put p.1 v members := by
  unfold supplied
  cases p.2.default with
  | none => exact Or.inl rfl
  | some v =>
      by_cases hout : leavesOut members p.1 = true
      · exact Or.inr ⟨v, rfl, hout, if_pos hout⟩
      · exact Or.inl (if_neg hout)

theorem get?_supplied_of_ne (hne : p.1 ≠ key) :
    Table.get? key (supplied members p) = Table.get? key members := by
  rcases supplied_cases members p with hsame | ⟨v, -, -, hput⟩
  · rw [hsame]
  · rw [hput, Table.get?_put, if_neg hne]

theorem leavesOut_supplied_of_ne (hne : p.1 ≠ key) (members : Object) :
    leavesOut (supplied members p) key = leavesOut members key := by
  rw [leavesOut, get?_supplied_of_ne hne, leavesOut]

theorem lacks_supplied_of_ne (hne : p.1 ≠ q.1) :
    lacks (supplied members p) q = lacks members q := by
  rw [lacks, leavesOut_supplied_of_ne hne, lacks]

/-- What is lacking beside a default has been lacking without it. -/
theorem lacks_of_supplied (hlacks : lacks (supplied members p) q = true) :
    lacks members q = true := by
  rcases supplied_cases members p with hsame | ⟨v, -, hout, -⟩
  · rwa [hsame] at hlacks
  · by_cases hne : p.1 = q.1
    · simp only [lacks, Bool.and_eq_true] at hlacks ⊢
      exact ⟨hlacks.1, hne ▸ hout⟩
    · rwa [lacks_supplied_of_ne hne] at hlacks

theorem supplied_supplied (members : Object) (p : String × PropertyDefinition) :
    supplied (supplied members p) p = supplied members p := by
  rcases supplied_cases members p with hsame | ⟨v, hdefault, hout, hput⟩
  · rw [hsame, hsame]
  · rw [hput]
    rcases supplied_cases (Table.put p.1 v members) p with hsame | ⟨w, hw, -, hagain⟩
    · exact hsame
    · cases hdefault.symm.trans hw
      rw [hagain, Table.put_put]

theorem supplied_comm (hne : p.1 ≠ q.1) (members : Object) :
    supplied (supplied members p) q = supplied (supplied members q) p := by
  cases hp : p.2.default with
  | none => simp only [supplied, hp]
  | some v =>
      cases hq : q.2.default with
      | none => simp only [supplied, hq]
      | some w =>
          have hleft := leavesOut_supplied_of_ne hne members
          have hright := leavesOut_supplied_of_ne hne.symm members
          simp only [supplied, hp, hq] at hleft hright ⊢
          rw [hleft, hright]
          split
          · split
            · exact Table.put_comm hne.symm w v members
            · rfl
          · rfl

theorem supplied_foldl (hne : ∀ q ∈ ps, p.1 ≠ q.1) (members : Object) :
    supplied (ps.foldl supplied members) p = ps.foldl supplied (supplied members p) := by
  induction ps generalizing members with
  | nil => rfl
  | cons q rest ih =>
      obtain ⟨hhead, hrest⟩ := List.forall_mem_cons.mp hne
      rw [List.foldl_cons, ih hrest, List.foldl_cons, supplied_comm hhead]

theorem get?_foldl_of_ne (hne : ∀ q ∈ ps, q.1 ≠ key) (members : Object) :
    Table.get? key (ps.foldl supplied members) = Table.get? key members := by
  induction ps generalizing members with
  | nil => rfl
  | cons q rest ih =>
      obtain ⟨hhead, hrest⟩ := List.forall_mem_cons.mp hne
      rw [List.foldl_cons, ih hrest, get?_supplied_of_ne hhead]

theorem names_cons (hnames : (Table.keys (p :: ps)).Nodup) :
    (∀ q ∈ ps, p.1 ≠ q.1) ∧ (Table.keys ps).Nodup := by
  obtain ⟨hhead, hrest⟩ := List.nodup_cons.mp hnames
  refine ⟨?_, hrest⟩
  intro q hq heq
  exact hhead (List.mem_map.mpr ⟨q, hq, heq.symm⟩)

/-- What the members have under the name of a property is settled by that property alone. -/
theorem get?_foldl (hnames : (Table.keys ps).Nodup) (hp : p ∈ ps) (members : Object) :
    Table.get? p.1 (ps.foldl supplied members) = Table.get? p.1 (supplied members p) := by
  induction ps generalizing members with
  | nil => exact absurd hp List.not_mem_nil
  | cons q rest ih =>
      obtain ⟨hhead, hrest⟩ := names_cons hnames
      rw [List.foldl_cons]
      rcases List.mem_cons.mp hp with rfl | hp
      · exact get?_foldl_of_ne (fun r hr => (hhead r hr).symm) _
      · rw [ih hrest hp, supplied_comm (hhead p hp), get?_supplied_of_ne (hhead p hp)]

/-- Defaults that have been put in are not put in again. -/
theorem foldl_foldl (hnames : (Table.keys ps).Nodup) (members : Object) :
    ps.foldl supplied (ps.foldl supplied members) = ps.foldl supplied members := by
  induction ps generalizing members with
  | nil => rfl
  | cons p rest ih =>
      obtain ⟨hhead, hrest⟩ := names_cons hnames
      rw [List.foldl_cons, List.foldl_cons, supplied_foldl hhead, supplied_supplied]
      exact ih hrest _

theorem lacks_of_foldl (hlacks : lacks (ps.foldl supplied members) q = true) :
    lacks members q = true := by
  induction ps generalizing members with
  | nil => exact hlacks
  | cons p rest ih => exact lacks_of_supplied (ih hlacks)

theorem foldl_sorted (hsorted : Table.Sorted members) (ps : Table PropertyDefinition) :
    Table.Sorted (ps.foldl supplied members) := by
  induction ps generalizing members with
  | nil => exact hsorted
  | cons p rest ih =>
      apply ih
      rcases supplied_cases members p with hsame | ⟨v, -, -, hput⟩
      · rwa [hsame]
      · rw [hput]
        exact hsorted.put p.1 v

theorem completed_cons (members : Object) (p : String × PropertyDefinition)
    (rest : Table PropertyDefinition) :
    completed (p :: rest) members =
      if lacks members p then .error (.missingConfigField p.1)
      else completed rest (supplied members p) := by
  rw [completed, supplied, lacks, leavesOut]
  cases (Table.get? p.1 members).any (fun v => !v.isNull) <;> cases p.2.default <;>
    cases p.2.required <;> rfl

/-- Members are completed with the defaults of all properties, unless they leave out one that is
required and has no default; the first such property is the fault. -/
theorem completed_eq (hnames : (Table.keys ps).Nodup) (members : Object) :
    completed ps members =
      match ps.find? (lacks members) with
      | some p => .error (.missingConfigField p.1)
      | none => .ok (ps.foldl supplied members) := by
  induction ps generalizing members with
  | nil => rfl
  | cons p rest ih =>
      obtain ⟨hhead, hrest⟩ := names_cons hnames
      rw [completed_cons]
      by_cases hlacks : lacks members p = true
      · rw [if_pos hlacks, List.find?_cons_of_pos hlacks]
      · -- the default of one property leaves the others as they are
        have hsame : rest.find? (lacks (supplied members p)) = rest.find? (lacks members) := by
          rw [← List.head?_filter, ← List.head?_filter,
            List.filter_congr fun q hq => lacks_supplied_of_ne (hhead q hq)]
        rw [if_neg hlacks, List.find?_cons_of_neg hlacks, ih hrest, hsame, List.foldl_cons]

theorem lacks_eq_true_iff : lacks members p = true ↔
    p.2.required = true ∧ p.2.default = none ∧
      ∀ old, Table.get? p.1 members = some old → old = .null := by
  rw [lacks, Bool.and_eq_true, Bool.and_eq_true, Option.isNone_iff_eq_none, leavesOut_iff,
    and_assoc]

end Members

section Configurations

variable {d : ConnectorDefinition} {config resolved : Value} {members : Object} {f : Fault}
  {key : String} {v : Value}

/-- The members that are completed: those of an object; null counts as an object without any. -/
def givenMembers? : Value → Option Object
  | .object members => some members
  | .null => some []
  | _ => none

theorem givenMembers?_eq_none_iff :
    givenMembers? config = none ↔ (∀ members, config ≠ .object members) ∧ config ≠ .null := by
  cases config <;> simp [givenMembers?]

theorem member?_of_givenMembers? (hgiven : givenMembers? config = some members) (key : String) :
    config.member? key = Table.get? key members := by
  cases config with
  | object given =>
      cases hgiven
      rfl
  | null =>
      cases hgiven
      rfl
  | _ => cases hgiven

/-- A required property without a default that a configuration leaves out. -/
structure MissingFrom (d : ConnectorDefinition) (config : Value) (key : String) : Prop where
  leftOut : ∀ old, config.member? key = some old → old = .null
  declared : ∃ p, (key, p) ∈ d.properties ∧ p.required = true ∧ p.default = none

theorem missingFrom_iff (hgiven : givenMembers? config = some members) :
    d.MissingFrom config key ↔ ∃ p, (key, p) ∈ d.properties ∧ lacks members (key, p) = true := by
  have hmember := member?_of_givenMembers? hgiven key
  constructor
  · rintro ⟨hout, p, hp, hrequired, hdefault⟩
    rw [hmember] at hout
    exact ⟨p, hp, lacks_eq_true_iff.mpr ⟨hrequired, hdefault, hout⟩⟩
  · rintro ⟨p, hp, hlacks⟩
    obtain ⟨hrequired, hdefault, hout⟩ := lacks_eq_true_iff.mp hlacks
    exact ⟨hmember ▸ hout, p, hp, hrequired, hdefault⟩

/-- A configuration is resolved by putting the defaults of all properties in, where they are left
out. -/
theorem resolveConfig_eq_ok_iff :
    d.resolveConfig config = .ok resolved ↔ ∃ members, givenMembers? config = some members ∧
      (∀ p ∈ d.properties, lacks members p = false) ∧
      resolved = .object (d.properties.entries.foldl supplied members) := by
  have hcompleted (members : Object) :
      (completed d.properties.entries members).map Value.object = .ok resolved ↔
        (∀ p ∈ d.properties, lacks members p = false) ∧
          resolved = .object (d.properties.entries.foldl supplied members) := by
    rw [completed_eq d.properties.sorted.nodup_keys]
    split
    · next p hfind =>
        have hp := List.mem_of_find?_eq_some hfind
        have hlacks := List.find?_some hfind
        constructor
        · exact nofun
        · rintro ⟨hall, -⟩
          exact absurd hlacks (Bool.eq_false_iff.mp (hall p hp))
    · next hfind =>
        have hall : ∀ p ∈ d.properties, lacks members p = false := by
          intro p hp
          exact eq_false_of_ne_true (List.find?_eq_none.mp hfind p hp)
        constructor
        · intro hmap
          cases hmap
          exact ⟨hall, rfl⟩
        · rintro ⟨-, rfl⟩
          rfl
  cases config with
  | object members =>
      rw [resolveConfig, hcompleted]
      simp [givenMembers?]
  | null =>
      rw [resolveConfig, hcompleted]
      simp [givenMembers?]
  | _ => simp [resolveConfig, givenMembers?]

/-- Resolving fails for what is neither an object nor null, and where a required property without
a default is left out. -/
theorem resolveConfig_fails_iff :
    (∃ f, d.resolveConfig config = .error f) ↔
      givenMembers? config = none ∨ ∃ key, d.MissingFrom config key := by
  have hfails : (∃ f, d.resolveConfig config = .error f) ↔
      ¬ ∃ resolved, d.resolveConfig config = .ok resolved := by
    cases d.resolveConfig config <;> simp
  rw [hfails]
  cases hgiven : givenMembers? config with
  | none => simp [resolveConfig_eq_ok_iff, hgiven]
  | some members =>
      have hmissing (key : String) : d.MissingFrom config key ↔
          ∃ p, (key, p) ∈ d.properties ∧ lacks members (key, p) = true :=
        missingFrom_iff hgiven
      simp [resolveConfig_eq_ok_iff, hgiven, hmissing]

/-- A property that is left out has its default in the resolved configuration. -/
theorem member?_of_defaultFor (hresolved : d.resolveConfig config = .ok resolved)
    (hdefault : d.DefaultFor config key v) : resolved.member? key = some v := by
  obtain ⟨members, hgiven, -, rfl⟩ := resolveConfig_eq_ok_iff.mp hresolved
  obtain ⟨hout, p, hp, hv⟩ := hdefault
  rw [member?_of_givenMembers? hgiven, ← leavesOut_iff] at hout
  change Table.get? key (d.properties.entries.foldl supplied members) = some v
  rw [get?_foldl d.properties.sorted.nodup_keys hp, supplied, hv]
  change Table.get? key (if leavesOut members key then _ else _) = some v
  rw [if_pos hout, Table.get?_put_self]

theorem member?_of_not_defaultFor (hresolved : d.resolveConfig config = .ok resolved)
    (hdefault : ¬ ∃ v, d.DefaultFor config key v) : resolved.member? key = config.member? key := by
  rcases member?_resolved hresolved key with hkept | ⟨v, hv, -⟩
  · exact hkept
  · exact absurd ⟨v, hv⟩ hdefault

/-- A resolved configuration is complete: resolving it again changes nothing. -/
theorem resolveConfig_resolved (hresolved : d.resolveConfig config = .ok resolved) :
    d.resolveConfig resolved = .ok resolved := by
  obtain ⟨members, -, hall, rfl⟩ := resolveConfig_eq_ok_iff.mp hresolved
  refine resolveConfig_eq_ok_iff.mpr ⟨_, rfl, ?_, ?_⟩
  · intro p hp
    apply eq_false_of_ne_true
    intro hlacks
    exact absurd (lacks_of_foldl hlacks) (Bool.eq_false_iff.mp (hall p hp))
  · rw [foldl_foldl d.properties.sorted.nodup_keys]

theorem source_streams_congr {other : Value}
    (hsame : d.resolveConfig config = d.resolveConfig other) :
    d.source.streams config = d.source.streams other := by
  simp only [source, dataStreams, hsame]

theorem source_check_congr {other : Value}
    (hsame : d.resolveConfig config = d.resolveConfig other) (n : Network) :
    d.source.check config n = d.source.check other n := by
  simp only [source, checkConnection, checkParts, hsame]

/-- Resolving a configuration fails where it is neither an object nor null, or leaves out a
required property without a default. Otherwise it gives each property with a default that is left
out exactly that default, and keeps all else as it is. What it gives is complete, so the streams
and the check of the source are the same for it as for the configuration it was made of. -/
theorem resolveConfig_completes (d : ConnectorDefinition) (config : Value) :
    ((∃ f, d.resolveConfig config = .error f) ↔
      ((∀ members, config ≠ .object members) ∧ config ≠ .null) ∨
        ∃ key, d.MissingFrom config key) ∧
    ∀ resolved, d.resolveConfig config = .ok resolved →
      (∃ filled, resolved = .object filled ∧
        ((∀ members, config = .object members → Table.Sorted members) → Table.Sorted filled)) ∧
      (∀ key v, d.DefaultFor config key v → resolved.member? key = some v) ∧
      (∀ key, (¬ ∃ v, d.DefaultFor config key v) → resolved.member? key = config.member? key) ∧
      d.resolveConfig resolved = .ok resolved ∧
      d.source.streams resolved = d.source.streams config ∧
      ∀ n, d.source.check resolved n = d.source.check config n := by
  refine ⟨?_, ?_⟩
  · rw [resolveConfig_fails_iff, givenMembers?_eq_none_iff]
  · intro resolved hresolved
    have hagain := resolveConfig_resolved hresolved
    have hsame := hagain.trans hresolved.symm
    refine ⟨?_, ?_, ?_, hagain, source_streams_congr hsame,
      source_check_congr hsame⟩
    · obtain ⟨members, hgiven, -, rfl⟩ := resolveConfig_eq_ok_iff.mp hresolved
      refine ⟨_, rfl, ?_⟩
      intro hsorted
      apply foldl_sorted
      cases config with
      | object given =>
          cases hgiven
          exact hsorted _ rfl
      | null =>
          cases hgiven
          exact List.Pairwise.nil
      | _ => cases hgiven
    · intro key v hdefault
      exact member?_of_defaultFor hresolved hdefault
    · intro key hdefault
      exact member?_of_not_defaultFor hresolved hdefault

end Configurations

end ConnectorDefinition

namespace CompletionExample

/-- A connector with two properties that have defaults, and a token that has none and is
required. -/
def definition : ConnectorDefinition where
  name := "accounts"
  version := ConnectorDefinition.initialVersion
  baseUrl := "http://[::1]"
  properties := ⟨[("page", ⟨none, none, false, false, some (Value.nat 50)⟩),
    ("region", ⟨none, none, false, true, some (.string "eu")⟩),
    ("token", ⟨none, none, true, true, none⟩)], by decide⟩
  auth := .none
  http := .standard
  check := none
  headers := ∅
  streams := [⟨"s", "/s", ∅, ∅, "", none, none, none⟩]

/-- A configuration with a token, null for a property with a default, and a member of its own. -/
def given : Value :=
  .object [("extra", .bool true), ("page", .null), ("token", .string "t")]

/-- What it becomes. -/
def whole : Value :=
  .object [("extra", .bool true), ("page", Value.nat 50), ("region", .string "eu"),
    ("token", .string "t")]

end CompletionExample

open CompletionExample in
/-- The token is missing from null. Where it is given, the other properties get their defaults and
the rest is kept. -/
theorem ConnectorDefinition.resolveConfig_completes_given :
    (∃ f, definition.resolveConfig .null = .error f) ∧
    definition.resolveConfig given = .ok whole ∧
    whole.member? "page" = some (Value.nat 50) ∧
    whole.member? "extra" = given.member? "extra" ∧
    definition.resolveConfig whole = .ok whole ∧
    definition.source.streams whole = definition.source.streams given := by
  have hresolved : definition.resolveConfig given = .ok whole := rfl
  have hmissing : definition.MissingFrom .null "token" :=
    ⟨nofun, ⟨none, none, true, true, none⟩, by simp [definition], rfl, rfl⟩
  have hpage : definition.DefaultFor given "page" (Value.nat 50) := by
    refine ⟨?_, ⟨none, none, false, false, some (Value.nat 50)⟩, List.mem_cons_self, rfl⟩
    intro old hold
    cases hold
    rfl
  have hextra : ¬ ∃ v, definition.DefaultFor given "extra" v := by
    rintro ⟨v, hdefault⟩
    cases hdefault.leftOut _ rfl
  have hfails := (definition.resolveConfig_completes .null).1.mpr (Or.inr ⟨"token", hmissing⟩)
  obtain ⟨-, hcompletes⟩ := definition.resolveConfig_completes given
  obtain ⟨-, hdefaults, hkept, hagain, hstreams, -⟩ := hcompletes whole hresolved
  exact ⟨hfails, hresolved, hdefaults "page" _ hpage, hkept "extra" hextra, hagain, hstreams⟩

end SourceSync
