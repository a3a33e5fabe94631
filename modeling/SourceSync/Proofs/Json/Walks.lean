/-
Walks into values. Records, templates and cursors all reach for a part of an object by a path: as
a dotted text, as the name of a variable, as a list of keys. A walk goes through objects only, one
member for each key; it ends at a value, or at nothing where a key is missing or no object is met.
All three come to where the walk along the same keys ends.
-/
import SourceSync.Cursor
import SourceSync.Template

namespace SourceSync

open Json Template

namespace Json

/-- Walking from a value along keys, and what is found at the end. -/
inductive Value.Walk : Value → List String → Option Value → Prop where
  | arrived (v : Value) : Walk v [] (some v)
  | step {members : Object} {key : String} {w : Value} {rest : List String} {found : Option Value}
      (hmember : Table.get? key members = some w) (hrest : Walk w rest found) :
      Walk (.object members) (key :: rest) found
  /-- The object has no such member. -/
  | missing {members : Object} {key : String} (rest : List String)
      (habsent : Table.get? key members = none) : Walk (.object members) (key :: rest) none
  /-- An array or a scalar has no members. -/
  | blocked {v : Value} (hother : ∀ members, v ≠ .object members) (key : String)
      (rest : List String) : Walk v (key :: rest) none

namespace Value

variable {v : Value} {keys : List String} {found : Option Value}

theorem Walk.follow?_eq (hwalk : v.Walk keys found) : v.follow? keys = found := by
  induction hwalk with
  | arrived v => rfl
  | step hmember _ ih =>
      rw [follow?, member?, hmember]
      exact ih
  | missing rest habsent =>
      rw [follow?, member?, habsent]
      rfl
  | blocked hother key rest =>
      rw [follow?, member?]
      · rfl
      · exact hother

theorem walk_follow? (v : Value) (keys : List String) : v.Walk keys (v.follow? keys) := by
  induction keys generalizing v with
  | nil => exact .arrived v
  | cons key rest ih =>
      by_cases hobject : ∃ members, v = .object members
      · obtain ⟨members, rfl⟩ := hobject
        rw [follow?, member?]
        cases hmember : Table.get? key members with
        | none => exact .missing rest hmember
        | some w => exact .step hmember (ih w)
      · have hother : ∀ members, v ≠ .object members := fun members hsame =>
          hobject ⟨members, hsame⟩
        have hblocked := Walk.blocked hother key rest
        rwa [hblocked.follow?_eq]

/-- A walk ends where following the keys ends, and nowhere else. -/
theorem walk_iff : v.Walk keys found ↔ found = v.follow? keys := by
  constructor
  · intro hwalk
    exact hwalk.follow?_eq.symm
  · rintro rfl
    exact v.walk_follow? keys

end Value

namespace Path

/-- The text of a path: its keys with dots between them. -/
def textOf (keys : List String) : String :=
  ".".intercalate keys

/-- Keys that can be written as a dotted text: there is one, none of them is empty or has a dot in
it, and the first does not begin with the sign of the root. -/
structure Plain (keys : List String) : Prop where
  ne_nil : keys ≠ []
  nonempty : ∀ key ∈ keys, key ≠ ""
  undotted : ∀ key ∈ keys, '.' ∉ key.toList
  unrooted : ∀ key ∈ keys.head?, key.toList.head? ≠ some '$'

theorem toList_textOf (keys : List String) :
    (textOf keys).toList = List.intercalate ['.'] (keys.map String.toList) := by
  rw [textOf, String.toList_intercalate]
  rfl

variable {keys : List String}

theorem keys_textOf (hkeys : Plain keys) : Path.keys (textOf keys).toList = keys := by
  have hundotted : ∀ piece ∈ keys.map String.toList, '.' ∉ piece := by
    intro piece hpiece
    obtain ⟨key, hkey, rfl⟩ := List.mem_map.mp hpiece
    exact hkeys.undotted key hkey
  have hsome : keys.map String.toList ≠ [] := by simpa using hkeys.ne_nil
  rw [Path.keys, toList_textOf, Text.splitOn_eq, List.splitOn_intercalate '.' hundotted hsome,
    List.map_map]
  have hsame : String.ofList ∘ String.toList = id := funext (fun _ => String.ofList_toList)
  rw [hsame, List.map_id]

/-- The text of a path begins with the first character of its first key. -/
theorem exists_textOf_cons (hkeys : Plain keys) :
    ∃ c cs, (textOf keys).toList = c :: cs ∧ c ≠ '$' ∧ c ≠ '.' := by
  obtain ⟨key, rest, rfl⟩ := List.exists_cons_of_ne_nil hkeys.ne_nil
  have hkey : key ∈ key :: rest := List.mem_cons_self
  have hnonempty : key.toList ≠ [] := fun hnil =>
    hkeys.nonempty key hkey (String.toList_eq_nil_iff.mp hnil)
  obtain ⟨c, cs, hchars⟩ := List.exists_cons_of_ne_nil hnonempty
  have hfirst : ∃ more, (textOf (key :: rest)).toList = c :: more := by
    rw [toList_textOf, List.map_cons]
    cases rest with
    | nil => exact ⟨cs, by simpa using hchars⟩
    | cons next others =>
        rw [List.map_cons, List.intercalate_cons_cons, hchars]
        exact ⟨_, rfl⟩
  obtain ⟨more, hmore⟩ := hfirst
  refine ⟨c, more, hmore, ?_, ?_⟩
  · rintro rfl
    exact hkeys.unrooted key rfl (by rw [hchars]; rfl)
  · rintro rfl
    exact hkeys.undotted key hkey (by rw [hchars]; exact List.mem_cons_self)

theorem parse_of_body {text : String} (hkeys : Plain keys)
    (hbody : body text = (textOf keys).toList) : parse text = keys := by
  obtain ⟨c, cs, hchars, -, -⟩ := exists_textOf_cons hkeys
  rw [parse, hbody, hchars]
  exact (congrArg Path.keys hchars).symm.trans (keys_textOf hkeys)

theorem body_textOf (hkeys : Plain keys) : body (textOf keys) = (textOf keys).toList := by
  obtain ⟨c, cs, hchars, hroot, hdot⟩ := exists_textOf_cons hkeys
  rw [body, hchars]
  split
  · next heq =>
      split at heq
      · next hcons => exact absurd (List.cons.inj hcons).1 hroot
      · exact absurd (List.cons.inj heq).1 hdot
  · split
    · next hcons => exact absurd (List.cons.inj hcons).1 hroot
    · rfl

theorem body_rooted (keys : List String) : body ("$." ++ textOf keys) = (textOf keys).toList := by
  rw [body, String.toList_append]
  rfl

theorem body_dotted (keys : List String) : body ("." ++ textOf keys) = (textOf keys).toList := by
  rw [body, String.toList_append]
  rfl

end Path

end Json

theorem Template.Context.get?_config {keys : List String} (hkeys : Path.Plain keys) (c : Context) :
    c.get? ("config." ++ Path.textOf keys) = c.config.follow? keys := by
  have hplain : '.' ∉ "config".toList := by decide
  have hname : Path.keys ("config." ++ Path.textOf keys).toList = "config" :: keys := by
    have hchars : ("config." ++ Path.textOf keys).toList =
        "config".toList ++ '.' :: (Path.textOf keys).toList := by
      rw [String.toList_append]
      rfl
    have hrest := Path.keys_textOf hkeys
    rw [Path.keys, Text.splitOn_eq] at hrest
    rw [Path.keys, hchars, Text.splitOn_eq, List.splitOn_append_cons_self_of_not_mem hplain,
      List.map_cons, hrest]
    rfl
  rw [Context.get?, hname]
  rfl

/-- The three ways to reach for a part of an object come to the end of the one walk along the
keys: looking up their text, with or without the sign of the root in front, reading the variable
of that name, and taking the cursor value. -/
theorem Json.Value.walks_agree (o : Object) {keys : List String} (hkeys : Path.Plain keys) :
    ∃ found, (∀ other, (Value.object o).Walk keys other ↔ other = found) ∧
      (Value.object o).lookup? (Path.textOf keys) = found ∧
      (Value.object o).lookup? ("$." ++ Path.textOf keys) = found ∧
      (Value.object o).lookup? ("." ++ Path.textOf keys) = found ∧
      (∀ state, Context.get? ⟨.object o, state⟩ ("config." ++ Path.textOf keys) = found) ∧
      (CursorField.path keys).valueIn? o = found := by
  refine ⟨(Value.object o).follow? keys, fun _ => walk_iff, ?_, ?_, ?_, ?_, ?_⟩
  · rw [lookup?, Path.parse_of_body hkeys (Path.body_textOf hkeys)]
  · rw [lookup?, Path.parse_of_body hkeys (Path.body_rooted keys)]
  · rw [lookup?, Path.parse_of_body hkeys (Path.body_dotted keys)]
  · exact fun state => Context.get?_config hkeys _
  · obtain ⟨key, rest, rfl⟩ := List.exists_cons_of_ne_nil hkeys.ne_nil
    rfl

namespace WalkExample

/-- An object in an object; beside it a text that looks like a path. -/
def page : Object :=
  [("data", .object [("$items", .array [.nat 7])]), ("data.$items", .string "data")]

theorem plain_inner : Path.Plain ["data", "$items"] :=
  ⟨by decide, by decide, by decide, by decide⟩

theorem plain_deeper : Path.Plain ["data", "$items", "0"] :=
  ⟨by decide, by decide, by decide, by decide⟩

end WalkExample

open WalkExample in
/-- A walk that ends at an array, and one that would have to go through it. -/
theorem Json.Value.walks_agree_inner :
    Path.Plain ["data", "$items"] ∧
    (Value.object page).lookup? "$.data.$items" = some (.array [.nat 7]) ∧
    (Context.ofConfig (.object page)).get? "config.data.$items" = some (.array [.nat 7]) ∧
    (CursorField.path ["data", "$items"]).valueIn? page = some (.array [.nat 7]) ∧
    Path.Plain ["data", "$items", "0"] ∧
    (Value.object page).lookup? ".data.$items.0" = none ∧
    (Context.ofConfig (.object page)).get? "config.data.$items.0" = none ∧
    (CursorField.path ["data", "$items", "0"]).valueIn? page = none := by
  obtain ⟨found, hwalk, -, hrooted, -, hvariable, hcursor⟩ := walks_agree page plain_inner
  have hinner : (Value.object page).Walk ["data", "$items"] (some (.array [.nat 7])) :=
    .step rfl (.step rfl (.arrived _))
  obtain rfl := (hwalk _).mp hinner
  obtain ⟨found, hwalk, -, -, hdotted, hvariable', hcursor'⟩ := walks_agree page plain_deeper
  have hdeeper : (Value.object page).Walk ["data", "$items", "0"] none :=
    .step rfl (.step rfl (.blocked (fun _ hsame => Value.noConfusion hsame) "0" []))
  obtain rfl := (hwalk _).mp hdeeper
  exact ⟨plain_inner, hrooted, hvariable _, hcursor, plain_deeper, hdotted, hvariable' _,
    hcursor'⟩

end SourceSync
