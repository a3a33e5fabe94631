/-
A value is read back from its compact text. The text is scanned into the tokens of the value's
outline, the reader puts the outline together again, and the outline has the value it was made
from, as long as containers are not nested too deep and numbers are read as they were written.
-/
import SourceSync.Proofs.Json.Scanning

namespace SourceSync.Json

namespace Value

mutual

/-- The outline that the text of a value has. -/
def outline : Value → Outline
  | .null => .null
  | .bool b => .bool b
  | .number n => .number n.literal
  | .string s => .string (s.toList.map Char.toNat)
  | .array items => .array (itemOutlines items)
  | .object members => .object (memberOutlines members)

def itemOutlines : List Value → List Outline
  | [] => []
  | v :: rest => outline v :: itemOutlines rest

def memberOutlines : List (String × Value) → List (Units × Outline)
  | [] => []
  | (k, v) :: rest => (k.toList.map Char.toNat, outline v) :: memberOutlines rest

end

mutual

/-- How deep containers are nested in a value. -/
def depth : Value → Nat
  | .array items => itemDepth items + 1
  | .object members => memberDepth members + 1
  | _ => 0

def itemDepth : List Value → Nat
  | [] => 0
  | v :: rest => max (depth v) (itemDepth rest)

def memberDepth : List (String × Value) → Nat
  | [] => 0
  | (_, v) :: rest => max (depth v) (memberDepth rest)

end

mutual

def numbers : Value → List Number
  | .number n => [n]
  | .array items => itemNumbers items
  | .object members => memberNumbers members
  | _ => []

def itemNumbers : List Value → List Number
  | [] => []
  | v :: rest => numbers v ++ itemNumbers rest

def memberNumbers : List (String × Value) → List Number
  | [] => []
  | (_, v) :: rest => numbers v ++ memberNumbers rest

end

theorem mem_memberNumbers {n : Number} {members : List (String × Value)} :
    n ∈ memberNumbers members ↔ ∃ m ∈ members, n ∈ m.2.numbers := by
  induction members with
  | nil => simp [memberNumbers]
  | cons m rest ih => simp [memberNumbers, ih]

end Value

namespace Outline

mutual

/-- The tokens an outline is read from. -/
def tokens : Outline → List Token
  | .null => [.null]
  | .bool b => [.bool b]
  | .number l => [.number l]
  | .string units => [.string units]
  | .array [] => [.openArray, .closeArray]
  | .array (o :: rest) => .openArray :: (tokens o ++ itemTokens rest)
  | .object [] => [.openObject, .closeObject]
  | .object ((k, o) :: rest) =>
    .openObject :: .string k :: .colon :: (tokens o ++ memberTokens rest)

/-- The tokens of the items after the first, and of the closing bracket. -/
def itemTokens : List Outline → List Token
  | [] => [.closeArray]
  | o :: rest => .comma :: (tokens o ++ itemTokens rest)

/-- The tokens of the members after the first, and of the closing bracket. -/
def memberTokens : List (Units × Outline) → List Token
  | [] => [.closeObject]
  | (k, o) :: rest => .comma :: .string k :: .colon :: (tokens o ++ memberTokens rest)

end

end Outline

section Scanning

open Token

theorem Closed.append {cs ds : List Char} (hcs : Closed cs) (hds : Closed ds) :
    Closed (cs ++ ds) := by
  cases cs with
  | nil => exact hds
  | cons c cs => exact .cons (hcs c rfl)

/-- The text is scanned into the tokens, whatever follows that cannot go on a literal. -/
def Scans (cs : List Char) (ts : List Token) : Prop :=
  ∀ rest, Closed rest → scan .between (cs ++ rest) = (scan .between rest).map (ts ++ ·)

namespace Scans

variable {cs ds : List Char} {ts us : List Token}

theorem append (hcs : Scans cs ts) (hds : Scans ds us) (hclosed : Closed ds) :
    Scans (cs ++ ds) (ts ++ us) := by
  intro rest hrest
  rw [List.append_assoc, hcs (ds ++ rest) (hclosed.append hrest), hds rest hrest]
  cases scan .between rest <;> simp [Except.map]

/-- Punctuation in front. -/
theorem cons {c : Char} {t : Token} (hbegin : begin c = .ok (.between, [t])) (hcs : Scans cs ts) :
    Scans (c :: cs) (t :: ts) := by
  intro rest hrest
  rw [List.cons_append, scan_cons (s := .between) hbegin, hcs rest hrest]
  cases scan .between rest <;> simp [Except.map]

theorem punctuation {c : Char} {t : Token} (hbegin : begin c = .ok (.between, [t])) :
    Scans [c] [t] :=
  fun _ _ => scan_cons (s := .between) hbegin

theorem word {t : Token} (hne : cs ≠ []) (hcs : cs.all isLiteralChar = true)
    (ht : ofLiteral cs = .ok t) : Scans cs [t] :=
  fun _ hrest => scan_between_literal hne (List.all_eq_true.mp hcs) ht hrest

theorem number {n : Number} (hn : n.ReadsBack) : Scans n.text [.number n.literal] :=
  fun _ hrest => scan_number hn hrest

theorem quote (s : String) : Scans (Json.quote s) [.string (s.toList.map Char.toNat)] :=
  fun _ _ => scan_quote s

theorem scan_eq (hcs : Scans cs ts) : scan .between cs = .ok ts := by
  have hend := hcs [] .nil
  rw [List.append_nil] at hend
  simpa [scan, finish, Except.map] using hend

end Scans

namespace Value

theorem closed_renderItems (items : List Value) : Closed (renderItems items) := by
  cases items <;> exact .cons rfl

theorem closed_renderMembers (members : List (String × Value)) :
    Closed (renderMembers members) := by
  rcases members with _ | ⟨⟨k, v⟩, rest⟩ <;> exact .cons rfl

mutual

theorem scans_render : ∀ v : Value, (∀ n ∈ v.numbers, n.ReadsBack) →
    Scans (render v) v.outline.tokens
  | .null, _ => .word (by decide) rfl rfl
  | .bool true, _ => .word (by decide) rfl rfl
  | .bool false, _ => .word (by decide) rfl rfl
  | .number n, hv => .number (hv n List.mem_cons_self)
  | .string s, _ => .quote s
  | .array [], _ => .cons rfl (.punctuation rfl)
  | .array (v :: rest), hv => by
      have hfirst := scans_render v (fun n hn => hv n (List.mem_append_left _ hn))
      have hrest := scans_renderItems rest (fun n hn => hv n (List.mem_append_right _ hn))
      exact .cons rfl (hfirst.append hrest (closed_renderItems rest))
  | .object [], _ => .cons rfl (.punctuation rfl)
  | .object ((k, v) :: rest), hv => by
      have hfirst := scans_render v (fun n hn => hv n (List.mem_append_left _ hn))
      have hrest := scans_renderMembers rest (fun n hn => hv n (List.mem_append_right _ hn))
      have hvalue := hfirst.append hrest (closed_renderMembers rest)
      exact .cons rfl ((Scans.quote k).append (.cons rfl hvalue) (.cons rfl))

theorem scans_renderItems : ∀ items : List Value, (∀ n ∈ itemNumbers items, n.ReadsBack) →
    Scans (renderItems items) (Outline.itemTokens (itemOutlines items))
  | [], _ => .punctuation rfl
  | v :: rest, hv => by
      have hfirst := scans_render v (fun n hn => hv n (List.mem_append_left _ hn))
      have hrest := scans_renderItems rest (fun n hn => hv n (List.mem_append_right _ hn))
      exact .cons rfl (hfirst.append hrest (closed_renderItems rest))

theorem scans_renderMembers : ∀ members : List (String × Value),
    (∀ n ∈ memberNumbers members, n.ReadsBack) →
      Scans (renderMembers members) (Outline.memberTokens (memberOutlines members))
  | [], _ => .punctuation rfl
  | (k, v) :: rest, hv => by
      have hfirst := scans_render v (fun n hn => hv n (List.mem_append_left _ hn))
      have hrest := scans_renderMembers rest (fun n hn => hv n (List.mem_append_right _ hn))
      have hvalue := hfirst.append hrest (closed_renderMembers rest)
      exact .cons rfl ((Scans.quote k).append (.cons rfl hvalue) (.cons rfl))

end

end Value

end Scanning

namespace Reader

theorem run_cons {r next : Reader} {t : Token} {ts : List Token} (hstep : step r t = .ok next) :
    run r (t :: ts) = run next ts := by
  simp only [run, hstep]

/-- The first item of an array is read like any other value. -/
theorem run_firstItem (stack : List Frame) (o : Outline) (ts : List Token) :
    run ⟨stack, .firstItem⟩ (o.tokens ++ ts) =
      run ⟨.array [] :: stack, .value⟩ (o.tokens ++ ts) := by
  cases o with
  | null => rfl
  | bool b => rfl
  | number l => rfl
  | string units => rfl
  | array items => cases items <;> rfl
  | object members => rcases members with _ | ⟨⟨k, o⟩, rest⟩ <;> rfl

mutual

theorem run_tokens : ∀ (o : Outline) (stack : List Frame) (ts : List Token),
    run ⟨stack, .value⟩ (o.tokens ++ ts) = run (complete stack o) ts
  | .null, _, _ => rfl
  | .bool _, _, _ => rfl
  | .number _, _, _ => rfl
  | .string _, _, _ => rfl
  | .array [], _, _ => rfl
  | .array (o :: rest), stack, ts => by
      have hopen : step ⟨stack, .value⟩ .openArray = .ok ⟨stack, .firstItem⟩ := rfl
      rw [Outline.tokens, List.cons_append, run_cons hopen, List.append_assoc, run_firstItem,
        run_tokens o]
      exact run_itemTokens rest stack [o] ts
  | .object [], _, _ => rfl
  | .object ((k, o) :: rest), stack, ts => by
      have hopen : step ⟨stack, .value⟩ .openObject = .ok ⟨stack, .firstKey⟩ := rfl
      have hkey : step ⟨stack, .firstKey⟩ (.string k) = .ok ⟨stack, .colon [] k⟩ := rfl
      have hcolon : step ⟨stack, .colon [] k⟩ .colon = .ok ⟨.object [] k :: stack, .value⟩ := rfl
      rw [Outline.tokens, List.cons_append, run_cons hopen, List.cons_append, run_cons hkey,
        List.cons_append, run_cons hcolon, List.append_assoc, run_tokens o]
      exact run_memberTokens rest stack [(k, o)] ts

/-- The items after some that have been read, and the end of the array. -/
theorem run_itemTokens : ∀ (items : List Outline) (stack : List Frame) (done : List Outline)
    (ts : List Token), run ⟨stack, .moreItems done⟩ (Outline.itemTokens items ++ ts) =
      run (complete stack (.array (done.reverse ++ items))) ts
  | [], _, done, _ => by rw [List.append_nil]; rfl
  | o :: rest, stack, done, ts => by
      have hcomma : step ⟨stack, .moreItems done⟩ .comma =
          .ok ⟨.array done :: stack, .value⟩ := rfl
      have hrest := run_itemTokens rest stack (o :: done) ts
      rw [List.reverse_cons, List.append_assoc] at hrest
      rw [Outline.itemTokens, List.cons_append, run_cons hcomma, List.append_assoc, run_tokens o]
      exact hrest

/-- The members after some that have been read, and the end of the object. -/
theorem run_memberTokens : ∀ (members : List (Units × Outline)) (stack : List Frame)
    (done : List (Units × Outline)) (ts : List Token),
    run ⟨stack, .moreMembers done⟩ (Outline.memberTokens members ++ ts) =
      run (complete stack (.object (done.reverse ++ members))) ts
  | [], _, done, _ => by rw [List.append_nil]; rfl
  | (k, o) :: rest, stack, done, ts => by
      have hcomma : step ⟨stack, .moreMembers done⟩ .comma = .ok ⟨stack, .key done⟩ := rfl
      have hkey : step ⟨stack, .key done⟩ (.string k) = .ok ⟨stack, .colon done k⟩ := rfl
      have hcolon : step ⟨stack, .colon done k⟩ .colon =
          .ok ⟨.object done k :: stack, .value⟩ := rfl
      have hrest := run_memberTokens rest stack ((k, o) :: done) ts
      rw [List.reverse_cons, List.append_assoc] at hrest
      rw [Outline.memberTokens, List.cons_append, run_cons hcomma, List.cons_append,
        run_cons hkey, List.cons_append, run_cons hcolon, List.append_assoc, run_tokens o]
      exact hrest

end

end Reader

/-- The text of a value has its outline. -/
theorem Outline.ofChars_render {v : Value} (hv : ∀ n ∈ v.numbers, n.ReadsBack) :
    Outline.ofChars v.render = .ok v.outline := by
  have hrun := Reader.run_tokens v.outline [] []
  rw [List.append_nil] at hrun
  have hread : Reader.run .start v.outline.tokens = .ok ⟨[], .nothing v.outline⟩ := hrun
  simp only [Outline.ofChars, (v.scans_render hv).scan_eq, hread]
  rfl

section Values

/-- Characters are units of their own. -/
theorem Units.chars?_toNat (cs : List Char) : Units.chars? (cs.map Char.toNat) = some cs := by
  induction cs with
  | nil => rfl
  | cons c cs ih =>
      have hvalid : c.toNat < 0xD800 ∨ 0xDFFF < c.toNat ∧ c.toNat < 0x110000 := c.valid
      have hlow : isLowSurrogate c.toNat = false := by
        simp only [isLowSurrogate, Bool.and_eq_false_iff, decide_eq_false_iff_not]
        omega
      have hhigh : isHighSurrogate c.toNat = false := by
        simp only [isHighSurrogate, Bool.and_eq_false_iff, decide_eq_false_iff_not]
        omega
      rw [List.map_cons, Units.chars?.eq_def]
      simp [hlow, hhigh, ih, Char.ofNat_toNat]

theorem Units.text_toNat (s : String) : Units.text (s.toList.map Char.toNat) = .ok s := by
  rw [Units.text, Units.chars?_toNat]
  exact congrArg Except.ok String.ofList_toList

namespace Value

mutual

theorem value_outline : ∀ (v : Value) {left : Nat}, v.depth ≤ left →
    (∀ n ∈ v.numbers, n.ReadsBack) → v.outline.value left = .ok v
  | .null, _, _, _ => by rw [outline, Outline.value]
  | .bool b, _, _, _ => by rw [outline, Outline.value]
  | .number n, _, _, hv => by
      obtain ⟨-, hnumber⟩ := (hv n List.mem_cons_self).literal_eq
      rw [outline, Outline.value, hnumber]
  | .string s, _, _, _ => by
      rw [outline, Outline.value, Units.text_toNat]
      rfl
  | .array items, 0, hdepth, _ => absurd hdepth (Nat.not_succ_le_zero _)
  | .array items, left + 1, hdepth, hv => by
      rw [outline, Outline.value, items_outline items (Nat.le_of_succ_le_succ hdepth) hv]
      rfl
  | .object members, 0, hdepth, _ => absurd hdepth (Nat.not_succ_le_zero _)
  | .object members, left + 1, hdepth, hv => by
      rw [outline, Outline.value, members_outline members (Nat.le_of_succ_le_succ hdepth) hv]
      rfl

theorem items_outline : ∀ (items : List Value) {left : Nat}, itemDepth items ≤ left →
    (∀ n ∈ itemNumbers items, n.ReadsBack) →
      (itemOutlines items).mapM (Outline.value left) = .ok items
  | [], _, _, _ => rfl
  | v :: rest, left, hdepth, hv => by
      have hfirst := value_outline v (Nat.le_trans (Nat.le_max_left _ _) hdepth)
        (fun n hn => hv n (List.mem_append_left _ hn))
      have hrest := items_outline rest (Nat.le_trans (Nat.le_max_right _ _) hdepth)
        (fun n hn => hv n (List.mem_append_right _ hn))
      rw [itemOutlines, List.mapM_cons, hfirst, hrest]
      rfl

theorem members_outline : ∀ (members : List (String × Value)) {left : Nat},
    memberDepth members ≤ left → (∀ n ∈ memberNumbers members, n.ReadsBack) →
      (memberOutlines members).mapM (fun (key, o) => do
        return (← key.text, ← Outline.value left o)) = .ok members
  | [], _, _, _ => rfl
  | (k, v) :: rest, left, hdepth, hv => by
      have hfirst := value_outline v (Nat.le_trans (Nat.le_max_left _ _) hdepth)
        (fun n hn => hv n (List.mem_append_left _ hn))
      have hrest := members_outline rest (Nat.le_trans (Nat.le_max_right _ _) hdepth)
        (fun n hn => hv n (List.mem_append_right _ hn))
      rw [memberOutlines, List.mapM_cons, hrest]
      simp only [Units.text_toNat, hfirst]
      rfl

end

end Value

end Values

/-- A value is read back from its text, nested up to the limit. -/
theorem readWithin_render {v : Value} {limit : Nat} (hdepth : v.depth ≤ limit)
    (hv : ∀ n ∈ v.numbers, n.ReadsBack) : readWithin limit v.render = .ok v := by
  rw [readWithin, Outline.ofChars_render hv]
  exact v.value_outline hdepth hv

theorem read_text {v : Value} (hdepth : v.depth ≤ nestingLimit)
    (hv : ∀ n ∈ v.numbers, n.ReadsBack) : Json.read v.text = .ok v := by
  rw [Json.read, Value.text, String.toList_ofList]
  exact readWithin_render hdepth hv

section Printing

/-- A text without control characters. -/
def Printed (cs : List Char) : Prop :=
  ∀ c ∈ cs, 32 ≤ c.toNat

namespace Printed

variable {c : Char} {cs ds : List Char}

theorem cons (hc : 32 ≤ c.toNat) (hcs : Printed cs) : Printed (c :: cs) := by
  intro d hd
  rcases List.mem_cons.mp hd with rfl | hd
  · exact hc
  · exact hcs d hd

theorem append (hcs : Printed cs) (hds : Printed ds) : Printed (cs ++ ds) := by
  intro d hd
  rcases List.mem_append.mp hd with hd | hd
  · exact hcs d hd
  · exact hds d hd

theorem of_isLiteralChar (hcs : ∀ c ∈ cs, Token.isLiteralChar c = true) : Printed cs := by
  have hcontrol : ∀ n < 32, Token.isLiteralChar (Char.ofNat n) = false := by decide
  intro c hc
  apply Nat.le_of_not_lt
  intro hlow
  have hnone := hcontrol c.toNat hlow
  rw [Char.ofNat_toNat, hcs c hc] at hnone
  cases hnone

theorem escape (c : Char) : Printed (Json.escape c) := by
  have hdigit : ∀ d < 16, 32 ≤ (hexDigit d).toNat := by decide
  have hnamed : ∀ letter : Char, 32 ≤ letter.toNat → Printed ['\\', letter] := fun letter hletter =>
    .cons (by decide) (.cons hletter nofun)
  unfold Json.escape
  split
  · exact hnamed _ (by decide)
  split
  · exact hnamed _ (by decide)
  split
  · exact hnamed _ (by decide)
  split
  · exact hnamed _ (by decide)
  split
  · exact hnamed _ (by decide)
  split
  · exact hnamed _ (by decide)
  split
  · exact hnamed _ (by decide)
  split
  · have hhigh := hdigit (c.toNat / 16) (by omega)
    have hlow := hdigit (c.toNat % 16) (by omega)
    exact (hnamed 'u' (by decide)).append
      (.cons (by decide) (.cons (by decide) (.cons hhigh (.cons hlow nofun))))
  · next hprinted => exact .cons (Nat.le_of_not_lt hprinted) nofun

theorem quote (s : String) : Printed (Json.quote s) := by
  have hbody : Printed (s.toList.flatMap Json.escape) := by
    intro c hc
    obtain ⟨d, -, hd⟩ := List.mem_flatMap.mp hc
    exact Printed.escape d c hd
  exact .cons (by decide) (hbody.append (.cons (by decide) nofun))

end Printed

namespace Value

mutual

theorem printed_render : ∀ v : Value, (∀ n ∈ v.numbers, n.ReadsBack) → Printed (render v)
  | .null, _ => .of_isLiteralChar (List.all_eq_true.mp rfl)
  | .bool true, _ => .of_isLiteralChar (List.all_eq_true.mp rfl)
  | .bool false, _ => .of_isLiteralChar (List.all_eq_true.mp rfl)
  | .number n, hv => by
      obtain ⟨hliteral, -⟩ := (hv n List.mem_cons_self).literal_eq
      exact .of_isLiteralChar (Number.allLiteral_of_literal? hliteral)
  | .string s, _ => .quote s
  | .array [], _ => .cons (by decide) (.cons (by decide) nofun)
  | .array (v :: rest), hv => by
      have hfirst := printed_render v (fun n hn => hv n (List.mem_append_left _ hn))
      have hrest := printed_renderItems rest (fun n hn => hv n (List.mem_append_right _ hn))
      exact .cons (by decide) (hfirst.append hrest)
  | .object [], _ => .cons (by decide) (.cons (by decide) nofun)
  | .object ((k, v) :: rest), hv => by
      have hfirst := printed_render v (fun n hn => hv n (List.mem_append_left _ hn))
      have hrest := printed_renderMembers rest (fun n hn => hv n (List.mem_append_right _ hn))
      exact .cons (by decide) ((Printed.quote k).append (.cons (by decide) (hfirst.append hrest)))

theorem printed_renderItems : ∀ items : List Value, (∀ n ∈ itemNumbers items, n.ReadsBack) →
    Printed (renderItems items)
  | [], _ => .cons (by decide) nofun
  | v :: rest, hv => by
      have hfirst := printed_render v (fun n hn => hv n (List.mem_append_left _ hn))
      have hrest := printed_renderItems rest (fun n hn => hv n (List.mem_append_right _ hn))
      exact .cons (by decide) (hfirst.append hrest)

theorem printed_renderMembers : ∀ members : List (String × Value),
    (∀ n ∈ memberNumbers members, n.ReadsBack) → Printed (renderMembers members)
  | [], _ => .cons (by decide) nofun
  | (k, v) :: rest, hv => by
      have hfirst := printed_render v (fun n hn => hv n (List.mem_append_left _ hn))
      have hrest := printed_renderMembers rest (fun n hn => hv n (List.mem_append_right _ hn))
      exact .cons (by decide) ((Printed.quote k).append (.cons (by decide) (hfirst.append hrest)))

end

end Value

end Printing

end SourceSync.Json
