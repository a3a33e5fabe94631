/-
The line format of messages. Every message is one line without control characters, and the
lines are read back as the messages that were written, in their order.
-/
import SourceSync.Proofs.Json.Order
import SourceSync.Proofs.Json.ReadBack
import SourceSync.Sink
import SourceSync.Text.Search

namespace SourceSync

open Json

namespace Json.Decode

section Fields

variable {names : List String} {members : List (String × Value)}

theorem repeated?_of_nodup (hnodup : (members.map (·.1)).Nodup) :
    repeated? names members = none := by
  induction members with
  | nil => rfl
  | cons m rest ih =>
      obtain ⟨k, v⟩ := m
      obtain ⟨hfirst, hrest⟩ := List.nodup_cons.mp hnodup
      have hany : rest.any (fun m => m.1 == k) = false := by
        rw [List.any_eq_false]
        intro m hm hsame
        exact hfirst (List.mem_map.mpr ⟨m, hm, beq_iff_eq.mp hsame⟩)
      simp only [repeated?, hany, Bool.and_false, ih hrest]
      rfl

/-- The fields that members of an object hold. -/
def Fields.ofMembers (members : List (String × Value)) : Fields :=
  ⟨fun name => Table.get? name members⟩

theorem fields_of_nodup (hnodup : (members.map (·.1)).Nodup) :
    fields names (.object members) = .ok (.ofMembers members) := by
  simp only [fields, repeated?_of_nodup hnodup]
  rfl

end Fields

section Written

/-- A step behind one that ended well. -/
theorem ok_bind {α β : Type} (a : α) (next : α → Result β) : Except.ok a >>= next = next a := rfl

variable {α : Type} {members : List (String × Value)} {name : String} {read : Value → Result α}

theorem required_member {v : Value} (hget : Table.get? name members = some v) :
    (Fields.ofMembers members).required name read = read v := by
  simp only [Fields.required, Fields.ofMembers, hget]

theorem withDefault_member {v : Value} {default : α} (hget : Table.get? name members = some v) :
    (Fields.ofMembers members).withDefault name default read = read v := by
  simp only [Fields.withDefault, Fields.ofMembers, hget]

/-- A member that is left out when there is no value is read as none. -/
theorem optional_member {write : α → Value} {a? : Option α}
    (hget : Table.get? name members = a?.map write) (hread : ∀ a, read (write a) = .ok a)
    (hnull : ∀ a, write a ≠ .null) : (Fields.ofMembers members).optional name read = .ok a? := by
  cases a? with
  | none => simp only [Fields.optional, Fields.ofMembers, hget, Option.map_none]
  | some a =>
      simp only [Fields.optional, Fields.ofMembers, hget, Option.map_some]
      split
      · next hnone => exact absurd (Option.some.inj hnone) (hnull a)
      · next hsome =>
          cases hsome
          rw [hread a]
          rfl
      · next hnone => cases hnone

theorem strings_written (ss : List String) : list string (Value.strings ss) = .ok ss :=
  mapM_written (fun _ _ => rfl)

end Written

end Json.Decode

namespace CatalogStream

theorem get?_optionalMember (key name : String) (v? : Option Value) :
    Table.get? name (optionalMember key v?) = if key = name then v? else none := by
  cases v? <;> simp [optionalMember, Table.get?]

theorem mode_written (m : SyncMode) : SyncMode.decode (.string m.name) = .ok m := by
  cases m <;> rfl

theorem decode_toJson {s : CatalogStream} (hs : s.schema.Ordered) : decode s.toJson = .ok s := by
  obtain ⟨name, schema, modes, cursor, field⟩ := s
  obtain ⟨members, hmembers⟩ : ∃ members, members =
      [("name", .string name), ("json_schema", schema),
        ("supported_sync_modes", .array (modes.map (fun m => .string m.name)))] ++
      optionalMember "source_defined_cursor" (cursor.map .bool) ++
      optionalMember "default_cursor_field" (field.map Value.strings) := ⟨_, rfl⟩
  have hjson : toJson ⟨name, schema, modes, cursor, field⟩ = .object members := by
    rw [hmembers]
    rfl
  have hnodup : (members.map (·.1)).Nodup := by
    rw [hmembers]
    cases cursor <;> cases field <;> simp [optionalMember]
  have hname : Table.get? "name" members = some (.string name) := by
    rw [hmembers]
    rfl
  have hschema : Table.get? "json_schema" members = some schema := by
    rw [hmembers]
    rfl
  have hmodes : Table.get? "supported_sync_modes" members =
      some (.array (modes.map (fun m => .string m.name))) := by
    rw [hmembers]
    rfl
  have hcursor : Table.get? "source_defined_cursor" members = cursor.map .bool := by
    rw [hmembers]
    simp [Table.get?_append, get?_optionalMember, Table.get?]
  have hfield : Table.get? "default_cursor_field" members = field.map Value.strings := by
    rw [hmembers]
    simp [Table.get?_append, get?_optionalMember, Table.get?]
  have hlist : Decode.list SyncMode.decode (.array (modes.map (fun m => .string m.name))) =
      .ok modes := Decode.mapM_written (fun m _ => mode_written m)
  have hbool : ∀ b : Bool, Decode.bool (.bool b) = .ok b := fun _ => rfl
  have hbool_ne : ∀ b : Bool, Value.bool b ≠ .null := fun _ h => Value.noConfusion h
  have hstrings_ne : ∀ ss, Value.strings ss ≠ .null := fun _ h => Value.noConfusion h
  rw [hjson, decode, Decode.fields_of_nodup hnodup]
  simp only [Decode.ok_bind, Decode.required_member hname, Decode.withDefault_member hschema,
    Decode.withDefault_member hmodes, Decode.optional_member hcursor hbool hbool_ne,
    Decode.optional_member hfield Decode.strings_written hstrings_ne, Decode.string, hlist,
    Value.sorted_of_ordered hs]
  rfl

end CatalogStream

theorem Catalog.decode_toJson {c : Catalog} (hc : ∀ s ∈ c.streams, s.schema.Ordered) :
    decode c.toJson = .ok c := by
  have hstreams : Decode.list CatalogStream.decode (.array (c.streams.map CatalogStream.toJson)) =
      .ok c.streams := Decode.mapM_written (fun s hs => CatalogStream.decode_toJson (hc s hs))
  have hfield : Table.get? "streams"
      [("streams", Value.array (c.streams.map CatalogStream.toJson))] =
        some (.array (c.streams.map CatalogStream.toJson)) := rfl
  rw [toJson, decode, Decode.fields_of_nodup (by simp)]
  simp only [Decode.ok_bind, Decode.required_member hfield, hstreams]
  rfl

theorem ConnectionStatus.decode_toJson (s : ConnectionStatus) : decode s.toJson = .ok s := by
  obtain ⟨succeeded, detail⟩ := s
  cases succeeded <;> cases detail <;> rfl

/-- The range of the times that records are stamped with. -/
def StreamRecord.InTime (r : StreamRecord) : Prop :=
  -0x8000000000000000 ≤ r.emittedAt ∧ r.emittedAt < 0x8000000000000000

namespace Message

/-- What the parts of a message are: free-form data in key order, with every key once, and times
of 64 bits. -/
def WellFormed : Message → Prop
  | .record r => (Value.object r.data).Ordered ∧ r.InTime
  | .state s => ∀ e ∈ s.streams, (Value.object e.2).Ordered
  | .log _ _ => True
  | .catalog c => ∀ s ∈ c.streams, s.schema.Ordered
  | .connectionStatus _ => True

theorem signed_int {n : Int} (hlow : -0x8000000000000000 ≤ n) (hhigh : n < 0x8000000000000000) :
    Decode.signed (Value.int n) = .ok n := by
  have hrange : InRange n := ⟨hlow, by omega⟩
  simp only [Value.int, Number.ofInt, dif_pos hrange, Decode.signed, Number.signed?, if_pos hhigh]

theorem decodeRecord_written {r : StreamRecord} (hdata : (Value.object r.data).Ordered)
    (htime : r.InTime) : decodeRecord (payload (.record r)).2 = .ok r := by
  obtain ⟨stream, data, stamp⟩ := r
  obtain ⟨members, hmembers⟩ : ∃ members, members = [("stream", .string stream),
    ("data", .object data), ("emitted_at", Value.int stamp)] := ⟨_, rfl⟩
  have hstream : Table.get? "stream" members = some (.string stream) := by
    rw [hmembers]
    rfl
  have hdata' : Table.get? "data" members = some (.object data) := by
    rw [hmembers]
    rfl
  have hstamp : Table.get? "emitted_at" members = some (Value.int stamp) := by
    rw [hmembers]
    rfl
  have hnodup : (members.map (·.1)).Nodup := by
    rw [hmembers]
    simp
  rw [payload, ← hmembers, decodeRecord, Decode.fields_of_nodup hnodup]
  simp only [Decode.ok_bind, Decode.required_member hstream, Decode.required_member hdata',
    Decode.required_member hstamp, Decode.string, Decode.object_of_ordered hdata,
    signed_int htime.1 htime.2]
  rfl

theorem decodeState_written {s : SyncState}
    (hs : ∀ e ∈ s.streams, (Value.object e.2).Ordered) :
    decodeState (payload (.state s)).2 = .ok s := by
  have hdata : Table.get? "data" [("data", s.toJson)] = some s.toJson := rfl
  have htable : Decode.table Decode.object s.toJson = .ok s.streams := Decode.table_of_ordered hs
  rw [payload, decodeState, Decode.fields_of_nodup (by simp)]
  simp only [Decode.ok_bind, Decode.required_member hdata, SyncState.decode, htable]
  rfl

theorem splitType_toJson (m : Message) :
    splitType m.toJson = .ok (m.typeName, .object [m.payload]) := by
  cases m <;> rfl

theorem fields_single (key : String) (v : Value) :
    Decode.fields [key] (.object [(key, v)]) = .ok (.ofMembers [(key, v)]) :=
  Decode.fields_of_nodup (by simp)

theorem required_single {α : Type} (key : String) (v : Value) (read : Value → Decode.Result α) :
    (Decode.Fields.ofMembers [(key, v)]).required key read = read v :=
  Decode.required_member (by simp [Table.get?])

/-- What is written of a message is read as the message. -/
theorem decode_toJson {m : Message} (hm : m.WellFormed) : decode m.toJson = .ok m := by
  rw [decode, splitType_toJson]
  cases m with
  | record r =>
      have hrecord := decodeRecord_written hm.1 hm.2
      simp only [payload] at hrecord
      simp only [Decode.ok_bind, typeName, payload, fields_single, required_single, hrecord]
      rfl
  | state s =>
      have hstate := decodeState_written hm
      simp only [payload] at hstate
      simp only [Decode.ok_bind, typeName, payload, fields_single, required_single, hstate]
      rfl
  | log level text => cases level <;> rfl
  | catalog c =>
      simp only [Decode.ok_bind, typeName, payload, fields_single, required_single,
        Catalog.decode_toJson hm]
      rfl
  | connectionStatus s =>
      simp only [Decode.ok_bind, typeName, payload, fields_single, required_single,
        ConnectionStatus.decode_toJson s]
      rfl

/-- The floating-point numbers in a message are read again as they were written. -/
def RealsReadBack (m : Message) : Prop :=
  ∀ x, .real x ∈ m.toJson.numbers → (Number.real x).ReadsBack

theorem RealsReadBack.numbers {m : Message} (hreals : m.RealsReadBack) :
    ∀ n ∈ m.toJson.numbers, n.ReadsBack :=
  Number.readsBack_of_reals hreals

theorem ofText_line {m : Message} (hm : m.WellFormed) (hdepth : m.toJson.depth ≤ nestingLimit)
    (hreals : m.RealsReadBack) : ofText m.line = .ok m := by
  rw [ofText, line, read_text hdepth hreals.numbers]
  exact decode_toJson hm

theorem printed_line {m : Message} (hreals : m.RealsReadBack) : Printed m.line.toList := by
  rw [line, Value.text, String.toList_ofList]
  exact m.toJson.printed_render hreals.numbers

end Message

namespace Sink

/-- The lines of a text in which every line ends with a line break. -/
def linesOf (text : String) : List String :=
  (Text.splitOn '\n' text.toList).dropLast.map String.ofList

theorem splitOn_line {line : List Char} (hline : '\n' ∉ line) (rest : List Char) :
    Text.splitOn '\n' (line ++ '\n' :: rest) = line :: Text.splitOn '\n' rest := by
  rw [Text.splitOn_eq, Text.splitOn_eq, List.splitOn_append_cons_self_of_not_mem hline]

theorem splitOn_lines {lines : List String} (hlines : ∀ line ∈ lines, '\n' ∉ line.toList) :
    Text.splitOn '\n' (String.join (lines.map (· ++ "\n"))).toList =
      lines.map String.toList ++ [[]] := by
  induction lines with
  | nil => rfl
  | cons line rest ih =>
      have hfirst := hlines line List.mem_cons_self
      have hrest := ih (fun other hother => hlines other (List.mem_cons_of_mem _ hother))
      rw [String.toList_join] at hrest ⊢
      rw [List.map_cons, List.flatMap_cons, String.toList_append, List.append_assoc]
      exact (splitOn_line hfirst _).trans (congrArg (line.toList :: ·) hrest)

theorem linesOf_join {lines : List String} (hlines : ∀ line ∈ lines, '\n' ∉ line.toList) :
    linesOf (String.join (lines.map (· ++ "\n"))) = lines := by
  rw [linesOf, splitOn_lines hlines, List.dropLast_concat, List.map_map]
  have hsame : String.ofList ∘ String.toList = id := funext (fun _ => String.ofList_toList)
  rw [hsame, List.map_id]

theorem Format.text_lines (messages : List Message) :
    Format.lines.text messages = String.join ((messages.map Message.line).map (· ++ "\n")) := by
  rw [Format.text, List.map_map]
  rfl

end Sink

/-- Messages written on lines, and read line by line. The text is one line for each message,
without a control character in it, and the lines are read as the messages that were written, in
their order. Objects in messages are in key order and nested up to the limit; of numbers only
the floating-point ones have to be trusted. -/
theorem Message.lines_read_back {messages : List Message}
    (hmessages : ∀ m ∈ messages,
      m.WellFormed ∧ m.toJson.depth ≤ nestingLimit ∧ m.RealsReadBack) :
    let text := Sink.Format.lines.text messages
    let lines := Sink.linesOf text
    text = String.join (lines.map (· ++ "\n")) ∧ lines.length = messages.length ∧
      (∀ line ∈ lines, ∀ c ∈ line.toList, 32 ≤ c.toNat) ∧
      lines.map Message.ofText = messages.map .ok := by
  have hprinted : ∀ line ∈ messages.map Message.line, Printed line.toList := by
    intro line hline
    obtain ⟨m, hm, rfl⟩ := List.mem_map.mp hline
    exact printed_line (hmessages m hm).2.2
  have hbreaks : ∀ line ∈ messages.map Message.line, '\n' ∉ line.toList := by
    intro line hline hbreak
    exact absurd (hprinted line hline _ hbreak) (by decide)
  have hlines : Sink.linesOf (Sink.Format.lines.text messages) = messages.map Message.line := by
    rw [Sink.Format.text_lines, Sink.linesOf_join hbreaks]
  have hread : (messages.map Message.line).map Message.ofText = messages.map .ok := by
    rw [List.map_map]
    apply List.map_congr_left
    intro m hm
    obtain ⟨hwell, hdepth, hreals⟩ := hmessages m hm
    rw [Function.comp_apply, ofText_line hwell hdepth hreals]
  simp only [hlines]
  exact ⟨Sink.Format.text_lines messages, List.length_map _, hprinted, hread⟩

namespace WireExample

def half : Decimal.Binary64 := ⟨false, 0x3FF8000000000000, by decide⟩

/-- A record with text of all kinds, nested data and both kinds of numbers. -/
def record : StreamRecord where
  stream := "a \"b\"\n\u2028"
  data := [("list", .array [.object [("real", .number (.real half))], .null, .nat 7]),
    ("text", .string "\\ \x01 \t é 😀")]
  emittedAt := -1

/-- A stream that leaves one optional member out. -/
def stream : CatalogStream :=
  ⟨"s", .object [("a", .bool true), ("b", .array [])], [.fullRefresh, .incremental], none,
    some ["k", "l"]⟩

/-- The states of two streams, one of them without content. -/
def state : SyncState :=
  ⟨⟨[("s", [("k", .nat 1)]), ("t", [])], by decide⟩⟩

/-- A message of every kind. -/
def messages : List Message :=
  [.record record, .state state, .log .warn "one\r\ntwo",
    .catalog ⟨[stream]⟩, .connectionStatus ⟨false, some ""⟩]

theorem wellFormed : ∀ m ∈ messages, m.WellFormed := by
  have hpair : ∀ {k l : String} {v w : Value}, k < l → Table.Sorted [(k, v), (l, w)] :=
    fun hless => List.pairwise_pair.mpr hless
  have hsingle : ∀ {k : String} {v : Value}, Table.Sorted [(k, v)] :=
    List.pairwise_singleton _ _
  have hrecord : (Value.object record.data).Ordered :=
    ⟨hpair (by decide), ⟨⟨hsingle, trivial, trivial⟩, trivial, trivial, trivial⟩, trivial, trivial⟩
  have hstate : ∀ e ∈ state.streams, (Value.object e.2).Ordered :=
    List.forall_mem_cons.mpr ⟨⟨hsingle, trivial, trivial⟩,
      List.forall_mem_singleton.mpr ⟨List.Pairwise.nil, trivial⟩⟩
  have hschema : stream.schema.Ordered := ⟨hpair (by decide), trivial, trivial, trivial⟩
  have htime : record.InTime := ⟨by decide, by decide⟩
  simp only [messages, List.forall_mem_cons]
  exact ⟨⟨hrecord, htime⟩, hstate, trivial, List.forall_mem_singleton.mpr hschema, trivial, nofun⟩

theorem shallow : ∀ m ∈ messages, m.toJson.depth ≤ nestingLimit := by
  decide +kernel

theorem realsReadBack : ∀ m ∈ messages, m.RealsReadBack := by
  intro m hm x hx
  have hnumbers : ∀ m ∈ messages, ∀ n ∈ m.toJson.numbers, n.ReadsBack := by
    decide +kernel
  exact hnumbers m hm _ hx

end WireExample

open WireExample in
/-- One message of every kind. -/
theorem Message.lines_read_back_kinds :
    (∀ m ∈ messages, m.WellFormed ∧ m.toJson.depth ≤ nestingLimit ∧ m.RealsReadBack) ∧
      (Sink.linesOf (Sink.Format.lines.text messages)).length = 5 ∧
      (Sink.linesOf (Sink.Format.lines.text messages)).map Message.ofText = messages.map .ok := by
  have hmessages : ∀ m ∈ messages,
      m.WellFormed ∧ m.toJson.depth ≤ nestingLimit ∧ m.RealsReadBack := fun m hm =>
    ⟨wellFormed m hm, shallow m hm, realsReadBack m hm⟩
  obtain ⟨-, hlength, -, hread⟩ := Message.lines_read_back hmessages
  exact ⟨hmessages, hlength, hread⟩

end SourceSync
