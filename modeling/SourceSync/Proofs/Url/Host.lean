/-
Hosts and blanks. No domain has a blank or a control character in it, percent-encoded or not, so
no text that ends in one is the host of a special scheme.
-/
import SourceSync.Proofs.Text.Normal
import SourceSync.Proofs.Text.Octets
import SourceSync.Url.Host

namespace SourceSync.Url

open Text

namespace Domain

variable {c : Nat} {cs text : List Nat}

theorem written?_of_le (hc : c ≤ 0x20) : written? c = some [c] := by
  have hascii : c < 0x80 := by omega
  have hsmall : ¬ (0x41 ≤ c ∧ c ≤ 0x5A) := by omega
  refine (if_pos hascii).trans ?_
  rw [if_neg hsmall]

/-- Blanks and control characters are written as themselves. -/
theorem mem_of_written (hc : c ≤ 0x20) (hmem : c ∈ cs) (hwritten : written cs = some text) :
    c ∈ text := by
  unfold written at hwritten
  split at hwritten
  · apply Utf8.mem_of_mapM hwritten hmem
    rw [written?_of_le hc]
    rfl
  · obtain ⟨parts, hparts, rfl⟩ := Option.map_eq_some_iff.mp hwritten
    apply Normal.mem_canonical hc
    have hpart := Utf8.mem_of_mapM hparts hmem (written?_of_le hc)
    exact List.mem_flatten.mpr ⟨[c], hpart, List.mem_singleton_self c⟩

theorem toAscii?_eq_none {octets : List UInt8} {w : Char} (hw : w.toNat ≤ 0x20)
    (hmem : UInt8.ofNat w.toNat ∈ octets) : toAscii? octets = none := by
  have hsize : w.toNat < UInt8.size := Nat.lt_of_le_of_lt hw (by decide)
  have hoctet : (UInt8.ofNat w.toNat).toNat = w.toNat := UInt8.toNat_ofNat_of_lt' hsize
  cases hread : Utf8.decode? octets with
  | none => rw [toAscii?, hread]; rfl
  | some cs =>
      have hchar : w ∈ cs := by
        have := Utf8.mem_of_decode? (by omega) hmem hread
        rwa [hoctet, Char.ofNat_toNat] at this
      cases hwritten : written (cs.map Char.toNat) with
      | none =>
          rw [toAscii?, hread, Option.bind_eq_bind, Option.bind_some, hwritten]
          rfl
      | some text =>
          have hrefused : text.any isRefused = true := by
            have hcode := mem_of_written hw (List.mem_map_of_mem hchar) hwritten
            refine List.any_eq_true.mpr ⟨w.toNat, hcode, ?_⟩
            simp [isRefused, hw]
          rw [toAscii?, hread, Option.bind_eq_bind, Option.bind_some, hwritten,
            Option.bind_eq_bind, Option.bind_some, if_pos hrefused]

end Domain

variable {w : Char} {cs : List Char}

/-- Decoding keeps blanks and control characters, also behind a percent sign. -/
theorem mem_percentDecode (hw : w.toNat ≤ 0x20) (hmem : w ∈ cs) :
    UInt8.ofNat w.toNat ∈ percentDecode cs := by
  have hmark : w ≠ '%' := by
    rintro rfl
    exact absurd hw (by decide)
  have hdigit : hexValue? w = none := by
    simp only [hexValue?]
    rw [if_neg (by omega), if_neg (by omega), if_neg (by omega)]
  have hself : Utf8.encode (String.singleton w) = [UInt8.ofNat w.toNat] := by
    have hascii : w.val.toNat ≤ 127 := Nat.le_trans hw (by decide)
    simp only [Utf8.encode_eq, String.toList_singleton, List.flatMap_singleton]
    rw [String.utf8EncodeChar]
    exact if_pos hascii
  fun_induction percentDecode cs with
  | case1 => cases hmem
  | case2 a b more x y hb ha ih =>
      simp only [List.mem_cons] at hmem
      rcases hmem with hsame | rfl | rfl | hmore
      · exact absurd hsame hmark
      · rw [hdigit] at ha
        cases ha
      · rw [hdigit] at hb
        cases hb
      · exact List.mem_cons_of_mem _ (ih hmore)
  | case3 a b more hdigits ih =>
      rcases List.mem_cons.mp hmem with hsame | hrest
      · exact absurd hsame hmark
      · exact List.mem_cons_of_mem _ (ih hrest)
  | case4 short hshort ih =>
      rcases List.mem_cons.mp hmem with hsame | hrest
      · exact absurd hsame hmark
      · exact List.mem_cons_of_mem _ (ih hrest)
  | case5 c rest hc ih =>
      rw [List.mem_append]
      rcases List.mem_cons.mp hmem with rfl | hrest
      · exact Or.inl (hself ▸ List.mem_singleton_self _)
      · exact Or.inr (ih hrest)

/-- A text that ends in a blank or a control character is no host of a special scheme. -/
theorem Host.parse_concat (cs : List Char) (hw : w.toNat ≤ 0x20) (host : Host) :
    Host.parse (cs ++ [w]) ≠ .ok host := by
  intro hparse
  unfold Host.parse at hparse
  split at hparse
  · next inner hinner =>
      have hlast : inner.getLast? ≠ some ']' := by
        intro hlast
        have hend : (cs ++ [w]).getLast? = some ']' := by
          rw [hinner, List.getLast?_cons, hlast]
          rfl
        rw [List.getLast?_concat] at hend
        obtain rfl : w = ']' := Option.some.inj hend
        exact absurd hw (by decide)
      rw [Host.bracketed, if_neg hlast] at hparse
      cases hparse
  · have hdecoded : UInt8.ofNat w.toNat ∈ percentDecode (cs ++ [w]) :=
      mem_percentDecode hw List.mem_concat_self
    rw [Domain.toAscii?_eq_none hw hdecoded] at hparse
    cases hparse

end SourceSync.Url
