/-
The octets of texts and their order. The octets of a text are those of its characters one after
another, and a greater character has greater octets, whatever comes behind. So texts stand in
the same order as their octets. No character begins within another one, so a text is found in the
octets of another text only where it is found in that text. Of octets that are read, those of ASCII
are characters of their own.
-/
import SourceSync.Text.Utf8

namespace SourceSync.Text.Utf8

theorem toList_loop (bytes : ByteArray) (i : Nat) (done : List UInt8) :
    ByteArray.toList.loop bytes i done = done.reverse ++ bytes.data.toList.drop i := by
  induction hleft : bytes.size - i generalizing i done with
  | zero =>
      have hend : ¬ i < bytes.size := by omega
      rw [ByteArray.toList.loop, if_neg hend, List.drop_of_length_le, List.append_nil]
      exact Nat.not_lt.mp hend
  | succ left ih =>
      have hi : i < bytes.size := by omega
      have hget : bytes.get! i = bytes.data.toList[i] := getElem!_pos bytes.data i hi
      rw [ByteArray.toList.loop, if_pos hi, ih (i + 1) _ (by omega), hget, List.reverse_cons,
        List.append_assoc, List.singleton_append, List.getElem_cons_drop]

/-- The octets of a text are those of its characters. -/
theorem encode_eq (s : String) : encode s = s.toList.flatMap String.utf8EncodeChar := by
  rw [encode, String.toUTF8, ByteArray.toList, toList_loop, ← String.utf8Encode_toList,
    List.utf8Encode, List.toList_data_toByteArray]
  rfl

theorem ofNat_lt {n m : Nat} (hm : m < 256) (hlt : n < m) : UInt8.ofNat n < UInt8.ofNat m := by
  rw [UInt8.lt_iff_toNat_lt, UInt8.toNat_ofNat_of_lt' (Nat.lt_trans hlt hm),
    UInt8.toNat_ofNat_of_lt' hm]
  exact hlt

theorem cons_lt_cons {n m : Nat} (hm : m < 256) {xs ys : List UInt8}
    (hlt : n < m ∨ n = m ∧ xs < ys) : UInt8.ofNat n :: xs < UInt8.ofNat m :: ys := by
  rw [List.cons_lt_cons_iff]
  rcases hlt with hlt | ⟨rfl, hrest⟩
  · exact Or.inl (ofNat_lt hm hlt)
  · exact Or.inr ⟨rfl, hrest⟩

section Continuation

variable {n m : Nat} (xs ys : List UInt8)

/-- The last octet holds the last six bits. -/
theorem lastOctet_lt (hlt : n % 64 < m % 64) :
    UInt8.ofNat (n % 64 + 128) :: xs < UInt8.ofNat (m % 64 + 128) :: ys :=
  cons_lt_cons (by omega) (Or.inl (by omega))

theorem lastTwoOctets_lt (hlt : n % 4096 < m % 4096) :
    UInt8.ofNat (n / 64 % 64 + 128) :: UInt8.ofNat (n % 64 + 128) :: xs <
      UInt8.ofNat (m / 64 % 64 + 128) :: UInt8.ofNat (m % 64 + 128) :: ys := by
  have hdigits : n / 64 % 64 < m / 64 % 64 ∨ n / 64 % 64 = m / 64 % 64 ∧ n % 64 < m % 64 := by
    omega
  refine cons_lt_cons (by omega) (hdigits.imp (by omega) ?_)
  exact fun ⟨hsame, hlast⟩ => ⟨by omega, lastOctet_lt xs ys hlast⟩

theorem lastThreeOctets_lt (hlt : n % 262144 < m % 262144) :
    UInt8.ofNat (n / 4096 % 64 + 128) :: UInt8.ofNat (n / 64 % 64 + 128) ::
        UInt8.ofNat (n % 64 + 128) :: xs <
      UInt8.ofNat (m / 4096 % 64 + 128) :: UInt8.ofNat (m / 64 % 64 + 128) ::
        UInt8.ofNat (m % 64 + 128) :: ys := by
  have hdigits : n / 4096 % 64 < m / 4096 % 64 ∨
      n / 4096 % 64 = m / 4096 % 64 ∧ n % 4096 < m % 4096 := by
    omega
  refine cons_lt_cons (by omega) (hdigits.imp (by omega) ?_)
  exact fun ⟨hsame, hrest⟩ => ⟨by omega, lastTwoOctets_lt xs ys hrest⟩

end Continuation

/-- A greater character has greater octets, whatever comes behind. -/
theorem encodeChar_append_lt {a b : Char} (hlt : a < b) (xs ys : List UInt8) :
    String.utf8EncodeChar a ++ xs < String.utf8EncodeChar b ++ ys := by
  have hval : a.val.toNat < b.val.toNat := hlt
  have hmax : b.val.toNat < 0x110000 := by
    rcases b.valid with hlow | ⟨-, hhigh⟩
    · exact Nat.lt_trans hlow (by decide)
    · exact hhigh
  unfold String.utf8EncodeChar
  generalize a.val.toNat = n at *
  generalize b.val.toNat = m at *
  dsimp only
  -- a longer sequence has a greater first octet; among equals the first difference decides
  by_cases hone : m ≤ 0x7f
  · rw [if_pos hone, if_pos (by omega)]
    exact cons_lt_cons (by omega) (Or.inl hval)
  rw [if_neg hone]
  by_cases htwo : m ≤ 0x7ff
  · rw [if_pos htwo]
    split
    · exact cons_lt_cons (by omega) (Or.inl (by omega))
    · rw [if_pos (by omega)]
      have hdigits : n / 64 % 32 < m / 64 % 32 ∨ n / 64 % 32 = m / 64 % 32 ∧ n % 64 < m % 64 := by
        omega
      refine cons_lt_cons (by omega) (hdigits.imp (by omega) ?_)
      exact fun ⟨hsame, hlast⟩ => ⟨by omega, lastOctet_lt xs ys hlast⟩
  rw [if_neg htwo]
  by_cases hthree : m ≤ 0xffff
  · rw [if_pos hthree]
    split
    · exact cons_lt_cons (by omega) (Or.inl (by omega))
    split
    · exact cons_lt_cons (by omega) (Or.inl (by omega))
    rw [if_pos (by omega)]
    have hdigits : n / 4096 % 16 < m / 4096 % 16 ∨
        n / 4096 % 16 = m / 4096 % 16 ∧ n % 4096 < m % 4096 := by
      omega
    refine cons_lt_cons (by omega) (hdigits.imp (by omega) ?_)
    exact fun ⟨hsame, hrest⟩ => ⟨by omega, lastTwoOctets_lt xs ys hrest⟩
  rw [if_neg hthree]
  split
  · exact cons_lt_cons (by omega) (Or.inl (by omega))
  split
  · exact cons_lt_cons (by omega) (Or.inl (by omega))
  split
  · exact cons_lt_cons (by omega) (Or.inl (by omega))
  have hdigits : n / 262144 % 8 < m / 262144 % 8 ∨
      n / 262144 % 8 = m / 262144 % 8 ∧ n % 262144 < m % 262144 := by
    omega
  refine cons_lt_cons (by omega) (hdigits.imp (by omega) ?_)
  exact fun ⟨hsame, hrest⟩ => ⟨by omega, lastThreeOctets_lt xs ys hrest⟩

theorem encodeChar_ne_nil (c : Char) : String.utf8EncodeChar c ≠ [] := by
  unfold String.utf8EncodeChar
  dsimp only
  split
  · exact List.cons_ne_nil _ _
  · split
    · exact List.cons_ne_nil _ _
    · split <;> exact List.cons_ne_nil _ _

theorem flatMap_encodeChar_lt {cs ds : List Char} (hlt : cs < ds) :
    cs.flatMap String.utf8EncodeChar < ds.flatMap String.utf8EncodeChar := by
  induction cs generalizing ds with
  | nil =>
      cases ds with
      | nil => cases hlt
      | cons d ds =>
          obtain ⟨octet, octets, hoctets⟩ := List.exists_cons_of_ne_nil (encodeChar_ne_nil d)
          rw [List.flatMap_cons, hoctets]
          exact List.nil_lt_cons _ _
  | cons c cs ih =>
      cases ds with
      | nil => cases hlt
      | cons d ds =>
          rw [List.flatMap_cons, List.flatMap_cons]
          rcases List.cons_lt_cons_iff.mp hlt with hfirst | ⟨rfl, hrest⟩
          · exact encodeChar_append_lt hfirst _ _
          · exact List.append_left_lt (ih hrest)

/-- Texts stand in the order of their octets. -/
theorem encode_lt_encode_iff {a b : String} : encode a < encode b ↔ a < b := by
  have hmono {s t : String} (hlt : s < t) : encode s < encode t := by
    rw [encode_eq, encode_eq]
    exact flatMap_encodeChar_lt hlt
  constructor
  · intro hlt
    by_cases hba : b < a
    · exact absurd hlt (List.lt_asymm (hmono hba))
    by_cases hab : a < b
    · exact hab
    · have hsame : a = b := String.le_antisymm (String.not_lt.mp hba) (String.not_lt.mp hab)
      exact absurd hlt (hsame ▸ List.lt_irrefl _)
  · exact hmono

section Finding

variable {a b : Char} {cs ds : List Char}

theorem encodeChar_append_inj {xs ys : List UInt8}
    (hsame : String.utf8EncodeChar a ++ xs = String.utf8EncodeChar b ++ ys) : a = b ∧ xs = ys := by
  by_cases hab : a < b
  · exact absurd (encodeChar_append_lt hab xs ys) (hsame ▸ List.lt_irrefl _)
  by_cases hba : b < a
  · exact absurd (encodeChar_append_lt hba ys xs) (hsame ▸ List.lt_irrefl _)
  obtain rfl : a = b := Char.le_antisymm (Char.not_lt.mp hba) (Char.not_lt.mp hab)
  exact ⟨rfl, List.append_cancel_left hsame⟩

theorem isPrefix_of_flatMap_encodeChar
    (hbegins : cs.flatMap String.utf8EncodeChar <+: ds.flatMap String.utf8EncodeChar) :
    cs <+: ds := by
  induction cs generalizing ds with
  | nil => exact List.nil_prefix
  | cons c cs ih =>
      obtain ⟨rest, hrest⟩ := hbegins
      cases ds with
      | nil => simp at hrest
      | cons d ds =>
          rw [List.flatMap_cons, List.flatMap_cons, List.append_assoc] at hrest
          obtain ⟨rfl, hbehind⟩ := encodeChar_append_inj hrest
          exact List.cons_prefix_cons.mpr ⟨rfl, ih ⟨rest, hbehind⟩⟩

/-- An octet that begins a character is the first one of the character it stands in. -/
theorem eq_nil_of_encodeChar_eq {front rest xs ys : List UInt8} {o : UInt8}
    (hfirst : String.utf8EncodeChar a ++ xs = o :: ys)
    (hinside : String.utf8EncodeChar b = front ++ o :: rest) : front = [] := by
  obtain ⟨octet, octets, hoctets⟩ := List.exists_cons_of_ne_nil (encodeChar_ne_nil a)
  have ho : o.IsUTF8FirstByte := by
    have hbegin := UInt8.isUTF8FirstByte_getElem_zero_utf8EncodeChar (c := a)
    simp only [hoctets, List.getElem_cons_zero] at hbegin
    rw [hoctets] at hfirst
    cases hfirst
    exact hbegin
  have hlength : front.length < (String.utf8EncodeChar b).length := by
    rw [hinside, List.length_append, List.length_cons]
    omega
  have hthere : (String.utf8EncodeChar b)[front.length] = o := by
    simp [hinside]
  rw [← hthere] at ho
  exact List.length_eq_zero_iff.mp (UInt8.isUTF8FirstByte_getElem_utf8EncodeChar.mp ho)

/-- Octets of a text begin only where one of its characters does. -/
theorem isInfix_of_flatMap_encodeChar
    (hinside : cs.flatMap String.utf8EncodeChar <:+: ds.flatMap String.utf8EncodeChar) :
    cs <:+: ds := by
  by_cases hempty : cs = []
  · exact hempty ▸ List.nil_infix
  obtain ⟨c, cs, rfl⟩ := List.exists_cons_of_ne_nil hempty
  induction ds with
  | nil => simp at hinside
  | cons d ds ih =>
      obtain ⟨front, back, hparts⟩ := hinside
      rw [List.append_assoc, List.flatMap_cons (x := d), List.append_eq_append_iff] at hparts
      rcases hparts with ⟨begun, hfirst, hrest⟩ | ⟨between, -, hrest⟩
      · cases begun with
        | nil => exact List.infix_cons (ih ⟨[], back, hrest⟩)
        | cons o begun =>
            rw [List.flatMap_cons, List.append_assoc] at hrest
            obtain rfl : front = [] := eq_nil_of_encodeChar_eq hrest hfirst
            rw [List.nil_append] at hfirst
            rw [← hfirst] at hrest
            obtain ⟨rfl, hbehind⟩ := encodeChar_append_inj hrest
            have hbegins : cs <+: ds := isPrefix_of_flatMap_encodeChar ⟨back, hbehind⟩
            exact (List.cons_prefix_cons.mpr ⟨rfl, hbegins⟩).isInfix
      · exact List.infix_cons (ih ⟨between, back, by rw [hrest, List.append_assoc]⟩)

/-- A text is found in the octets of another one where it is found in that text itself. -/
theorem encode_isInfix_iff {s t : String} :
    encode s <:+: encode t ↔ s.toList <:+: t.toList := by
  rw [encode_eq, encode_eq]
  constructor
  · exact isInfix_of_flatMap_encodeChar
  · rintro ⟨front, back, hparts⟩
    rw [← hparts, List.flatMap_append, List.flatMap_append]
    exact List.infix_append _ _ _

end Finding

/-- What a step gives for an element of a list is among what it gives for the list. -/
theorem mem_of_mapM {α β : Type} {f : α → Option β} {as : List α} {bs : List β} {a : α} {b : β}
    (hall : as.mapM f = some bs) (ha : a ∈ as) (hb : f a = some b) : b ∈ bs := by
  induction as generalizing bs with
  | nil => cases ha
  | cons first rest ih =>
      rw [List.mapM_cons] at hall
      obtain ⟨c, hfirst, hall⟩ := Option.bind_eq_some_iff.mp hall
      obtain ⟨cs, hrest, hall⟩ := Option.bind_eq_some_iff.mp hall
      obtain rfl : c :: cs = bs := Option.some.inj hall
      rcases List.mem_cons.mp ha with rfl | ha
      · rw [hb] at hfirst
        cases hfirst
        exact List.mem_cons_self
      · exact List.mem_cons_of_mem _ (ih hrest ha)

section Reading

variable {b : UInt8} {octets : List UInt8}

/-- A sequence that only octets outside ASCII can go on with. -/
def Pending.Multibyte (p : Pending) : Prop :=
  0x80 ≤ p.low

/-- Reading on behind an octet that stands between two characters. -/
def scanLead (rest : List UInt8) : Lead → List Item
  | .single c => some c :: scan none rest
  | .opens p => scan (some p) rest
  | .invalid => none :: scan none rest

theorem scan_cons (o : UInt8) (rest : List UInt8) :
    scan none (o :: rest) = scanLead rest (lead o.toNat) := by
  rw [scan]
  cases lead o.toNat <;> rfl

theorem scan_some_cons (p : Pending) (o : UInt8) (rest : List UInt8)
    (houtside : ¬ (p.low ≤ o.toNat && o.toNat ≤ p.high) = true) :
    scan (some p) (o :: rest) = none :: scanLead rest (lead o.toNat) := by
  rw [scan]
  dsimp only
  rw [if_neg houtside]
  cases lead o.toNat <;> rfl

theorem multibyte_of_lead {n : Nat} {p : Pending} (hlead : lead n = .opens p) :
    p.Multibyte := by
  unfold lead at hlead
  repeat' split at hlead
  all_goals first
    | exact (Lead.noConfusion hlead : False).elim
    | obtain rfl := Lead.opens.inj hlead
      exact Nat.le_of_ble_eq_true rfl

/-- An octet that is an ASCII character is read as this character, wherever it stands. -/
theorem mem_scan (hb : b.toNat < 0x80) (hmem : b ∈ octets) {p : Option Pending}
    (hp : ∀ q, p = some q → q.Multibyte) : some (Char.ofNat b.toNat) ∈ scan p octets := by
  induction octets generalizing p with
  | nil => cases hmem
  | cons o rest ih =>
      have hopens : b ∈ rest → ∀ {q : Pending}, q.Multibyte →
          some (Char.ofNat b.toNat) ∈ scan (some q) rest := fun hrest q hq =>
        ih hrest (fun r hr => Option.some.inj hr ▸ hq)
      have hbetween : some (Char.ofNat b.toNat) ∈ scanLead rest (lead o.toNat) := by
        rcases List.mem_cons.mp hmem with rfl | hrest
        · have hsingle : lead b.toNat = .single (Char.ofNat b.toNat) := if_pos hb
          rw [hsingle]
          exact List.mem_cons_self
        · cases hlead : lead o.toNat with
          | single c => exact List.mem_cons_of_mem _ (ih hrest nofun)
          | opens q => exact hopens hrest (multibyte_of_lead hlead)
          | invalid => exact List.mem_cons_of_mem _ (ih hrest nofun)
      cases p with
      | none =>
          rw [scan_cons]
          exact hbetween
      | some p =>
          by_cases hgoesOn : (p.low ≤ o.toNat && o.toNat ≤ p.high) = true
          · have hlow : 0x80 ≤ o.toNat := by
              have := hp p rfl
              simp only [Pending.Multibyte, Bool.and_eq_true, decide_eq_true_eq] at this hgoesOn
              omega
            have hrest : b ∈ rest := by
              rcases List.mem_cons.mp hmem with rfl | hrest
              · omega
              · exact hrest
            rw [scan]
            dsimp only
            rw [if_pos hgoesOn]
            split
            · exact List.mem_cons_of_mem _ (ih hrest nofun)
            · exact hopens hrest (Nat.le_refl 0x80)
          · rw [scan_some_cons p o rest hgoesOn]
            exact List.mem_cons_of_mem _ hbetween

theorem mem_of_decode? (hb : b.toNat < 0x80) (hmem : b ∈ octets) {cs : List Char}
    (hread : decode? octets = some cs) : Char.ofNat b.toNat ∈ cs :=
  mem_of_mapM hread (mem_scan hb hmem (p := none) nofun) rfl

end Reading

end SourceSync.Text.Utf8
