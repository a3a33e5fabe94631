/-
Where the authority of a URL ends. Two texts that agree up to a slash behind the host have one
authority: what comes behind the slash does not reach into it, and a blank that comes before the
slash is part of a host or a port that is refused.
-/
import Mathlib.Data.List.TakeWhile
import SourceSync.Proofs.Url.Host
import SourceSync.Url.Parser

namespace SourceSync.Url

section Prefixes

variable {p : Char → Bool} {tail : List Char}

/-- What begins with a character that stops a search is left alone by it. -/
theorem dropWhile_append_of_head (cs : List Char) (hp : ∀ c, tail.head? = some c → p c = false) :
    (cs ++ tail).dropWhile p = cs.dropWhile p ++ tail := by
  induction cs with
  | nil =>
      cases tail with
      | nil => rfl
      | cons c rest => exact List.dropWhile_cons_of_neg (by simp [hp c rfl])
  | cons c cs ih =>
      rw [List.cons_append, List.dropWhile_cons, List.dropWhile_cons, ih]
      split <;> rfl

theorem takeWhile_append_of_head (cs : List Char) (hp : ∀ c, tail.head? = some c → p c = false) :
    (cs ++ tail).takeWhile p = cs.takeWhile p := by
  induction cs with
  | nil =>
      cases tail with
      | nil => rfl
      | cons c rest => exact List.takeWhile_cons_of_neg (by simp [hp c rfl])
  | cons c cs ih =>
      rw [List.cons_append, List.takeWhile_cons, List.takeWhile_cons, ih]

/-- What is dropped at the end of a text. -/
theorem exists_dropped (p : Char → Bool) (cs : List Char) :
    ∃ ds, (∀ d ∈ ds, p d = true) ∧ cs = (cs.reverse.dropWhile p).reverse ++ ds := by
  refine ⟨(cs.reverse.takeWhile p).reverse, ?_, ?_⟩
  · exact fun d hd => List.mem_takeWhile_imp (List.mem_reverse.mp hd)
  · rw [← List.reverse_append, List.takeWhile_append_dropWhile, List.reverse_reverse]

end Prefixes

section Ends

variable {cs : List Char}

/-- What is true of the characters up to the blank can be told one by one. -/
theorem of_low {P : Char → Prop} (hall : ∀ n ≤ 32, P (Char.ofNat n)) {c : Char}
    (hc : c.toNat ≤ 32) : P c := by
  have hchar := hall c.toNat hc
  rwa [Char.ofNat_toNat] at hchar

/-- Nothing but blanks and control characters. -/
def Blank (cs : List Char) : Prop :=
  ∀ c ∈ cs, c.toNat ≤ 32

/-- The text without control characters and blanks at its front. -/
def trimmedFront (cs : List Char) : List Char :=
  cs.dropWhile (fun c => decide (c.toNat ≤ 32))

def trimmedEnd (cs : List Char) : List Char :=
  (cs.reverse.dropWhile (fun c => decide (c.toNat ≤ 32))).reverse

theorem trimmed_eq (cs : List Char) : trimmed cs = trimmedEnd (trimmedFront cs) := rfl

theorem exists_blank (cs : List Char) : ∃ ws, Blank ws ∧ cs = trimmedEnd cs ++ ws := by
  obtain ⟨ws, hws, hcs⟩ := exists_dropped (fun c => decide (c.toNat ≤ 32)) cs
  exact ⟨ws, fun c hc => of_decide_eq_true (hws c hc), hcs⟩

theorem trimmedFront_slash (cs ds : List Char) :
    trimmedFront (cs ++ '/' :: ds) = trimmedFront cs ++ '/' :: ds := by
  apply dropWhile_append_of_head
  rintro c ⟨⟩
  rfl

theorem trimmedEnd_slash (cs ds : List Char) :
    trimmedEnd (cs ++ '/' :: ds) = cs ++ '/' :: trimmedEnd ds := by
  have hslash : ∀ c, ('/' :: cs.reverse).head? = some c → decide (c.toNat ≤ 32) = false := by
    rintro c ⟨⟩
    rfl
  have hreverse : (cs ++ '/' :: ds).reverse = ds.reverse ++ '/' :: cs.reverse := by simp
  rw [trimmedEnd, hreverse, dropWhile_append_of_head _ hslash]
  simp [trimmedEnd]

theorem mem_of_mem_trimmedEnd {c : Char} (hc : c ∈ trimmedEnd cs) : c ∈ cs :=
  List.mem_reverse.mp ((List.dropWhile_sublist _).subset (List.mem_reverse.mp hc))

/-- What stands behind the front of a text: nothing, or a slash, maybe with blanks before it. -/
inductive Tail : List Char → Prop where
  | nil : Tail []
  | slash {ws : List Char} (hws : Blank ws) (es : List Char) : Tail (ws ++ '/' :: es)

/-- Where a text goes on with a slash, its front is read as it is alone. -/
theorem exists_tail (cs ds : List Char) :
    ∃ tail, Tail tail ∧ (∀ c ∈ tail, c.toNat ≤ 32 ∨ c = '/' ∨ c ∈ ds) ∧
      unbroken (trimmed (cs ++ '/' :: ds)) = unbroken (trimmed cs) ++ tail := by
  obtain ⟨ws, hws, hfront⟩ := exists_blank (trimmedFront cs)
  have htrimmed : trimmed (cs ++ '/' :: ds) = trimmed cs ++ (ws ++ '/' :: trimmedEnd ds) := by
    rw [trimmed_eq, trimmedFront_slash, trimmedEnd_slash, trimmed_eq, ← List.append_assoc,
      ← hfront]
  have hws' : Blank (unbroken ws) := fun c hc => hws c (List.mem_filter.mp hc).1
  refine ⟨unbroken ws ++ '/' :: unbroken (trimmedEnd ds), .slash hws' _, ?_, ?_⟩
  · intro c hc
    rcases List.mem_append.mp hc with hc | hc
    · exact Or.inl (hws' c hc)
    · rcases List.mem_cons.mp hc with rfl | hc
      · exact Or.inr (Or.inl rfl)
      · exact Or.inr (Or.inr (mem_of_mem_trimmedEnd (List.mem_filter.mp hc).1))
  · rw [htrimmed]
    simp [unbroken, isBreak]

end Ends

section Scheme

variable {front tail scheme rest : List Char}

theorem Tail.head (htail : Tail tail) {c : Char} (hc : tail.head? = some c) :
    c.toNat ≤ 32 ∨ c = '/' := by
  cases htail with
  | nil => cases hc
  | @slash ws hws es =>
      cases ws with
      | nil => exact Or.inr (Option.some.inj hc).symm
      | cons w ws =>
          obtain rfl : w = c := Option.some.inj hc
          exact Or.inl (hws w List.mem_cons_self)

/-- Nothing of a scheme is a blank or a slash. -/
theorem Tail.stops (htail : Tail tail) {c : Char} (hc : tail.head? = some c) :
    isSchemeChar c = false ∧ isLetter c = false ∧ c ≠ ':' := by
  rcases htail.head hc with hlow | rfl
  · exact of_low (P := fun c => isSchemeChar c = false ∧ isLetter c = false ∧ c ≠ ':')
      (by decide) hlow
  · decide

/-- The scheme is read from the front. -/
theorem splitScheme?_append (front : List Char) (htail : Tail tail) :
    splitScheme? (front ++ tail) = (splitScheme? front).map (fun p => (p.1, p.2 ++ tail)) := by
  cases front with
  | nil =>
      cases tail with
      | nil => rfl
      | cons c rest => simp [splitScheme?, (htail.stops rfl).2.1]
  | cons c front =>
      have hscheme : ∀ d, tail.head? = some d → isSchemeChar d = false := fun d hd =>
        (htail.stops hd).1
      rw [List.cons_append, splitScheme?, splitScheme?, ← List.cons_append,
        dropWhile_append_of_head _ hscheme, takeWhile_append_of_head _ hscheme]
      split
      · cases hrest : (c :: front).dropWhile isSchemeChar with
        | nil =>
            -- the front has no colon, and none comes first behind it
            cases tail with
            | nil => rfl
            | cons d rest =>
                have hcolon : d ≠ ':' := (htail.stops rfl).2.2
                rw [List.nil_append]
                split
                · next heq =>
                    cases heq
                    exact absurd rfl hcolon
                · rfl
        | cons d more =>
            rw [List.cons_append]
            by_cases hcolon : d = ':'
            · subst hcolon
              rfl
            · split
              · next heq =>
                  cases heq
                  exact absurd rfl hcolon
              · split
                · next heq =>
                    cases heq
                    exact absurd rfl hcolon
                · rfl
      · rfl

end Scheme

section AuthorityText

def authorityText (cs : List Char) : List Char :=
  (cs.dropWhile (isSlash .special)).takeWhile (fun c => !endsAuthority .special c)

variable {cs tail : List Char} {c : Char}

theorem not_ends_of_mem (hc : c ∈ authorityText cs) : endsAuthority .special c = false := by
  simpa using List.mem_takeWhile_imp hc

theorem Tail.blank (htail : Tail tail) :
    Blank (tail.takeWhile (fun c => !endsAuthority .special c)) := by
  cases htail with
  | nil => exact nofun
  | @slash ws hws es =>
      rw [takeWhile_append_of_head _ (by rintro c ⟨⟩; rfl)]
      exact fun c hc => hws c ((List.takeWhile_sublist _).subset hc)

/-- An authority is not changed by what comes behind it, apart from blanks at its end. -/
theorem authorityText_append (hcs : authorityText cs ≠ []) (htail : Tail tail) :
    ∃ ws, Blank ws ∧ authorityText (cs ++ tail) = authorityText cs ++ ws := by
  have hrest : (cs.dropWhile (isSlash .special)).isEmpty = false := by
    rw [List.isEmpty_eq_false_iff]
    intro hempty
    rw [authorityText, hempty] at hcs
    exact hcs rfl
  rw [authorityText, authorityText, List.dropWhile_append, hrest, if_neg Bool.false_ne_true,
    List.takeWhile_append]
  split
  · next hwhole =>
      rw [List.Sublist.eq_of_length (List.takeWhile_sublist _) hwhole]
      exact ⟨_, htail.blank, rfl⟩
  · exact ⟨[], fun _ hw => absurd hw List.not_mem_nil, (List.append_nil _).symm⟩

/-- Where there is no authority, slashes and blanks make none but blanks. -/
theorem blank_authorityText (hcs : authorityText cs = [])
    (htail : ∀ c ∈ tail, c.toNat ≤ 32 ∨ c = '/') : Blank (authorityText (cs ++ tail)) := by
  intro c hc
  have hends := not_ends_of_mem hc
  rw [authorityText, List.dropWhile_append] at hc
  rw [authorityText] at hcs
  cases hrest : cs.dropWhile (isSlash .special) with
  | nil =>
      rw [hrest, List.isEmpty_nil, if_pos rfl] at hc
      have hmem : c ∈ tail :=
        (List.dropWhile_sublist _).subset ((List.takeWhile_sublist _).subset hc)
      apply (htail c hmem).resolve_right
      rintro rfl
      cases hends
  | cons d more =>
      rw [hrest, List.isEmpty_cons, if_neg Bool.false_ne_true, List.cons_append] at hc
      rw [hrest] at hcs
      cases hd : endsAuthority .special d with
      | true =>
          rw [List.takeWhile_cons_of_neg (by simp [hd])] at hc
          cases hc
      | false =>
          rw [List.takeWhile_cons_of_pos (by simp [hd])] at hcs
          cases hcs

/-- A query or a fragment is no part of the authority. -/
theorem authorityText_takeWhile {p : Char → Bool} (cs : List Char)
    (hp : ∀ c, p c = false → isSlash .special c = false ∧ endsAuthority .special c = true) :
    authorityText (cs.takeWhile p) = authorityText cs := by
  have hstop : ∀ c, (cs.dropWhile p).head? = some c → p c = false := by
    intro c hc
    have hnot := List.head?_dropWhile_not p cs
    rw [hc] at hnot
    simpa using hnot
  have hslash : ∀ c, (cs.dropWhile p).head? = some c → isSlash .special c = false :=
    fun c hc => (hp c (hstop c hc)).1
  have hends : ∀ c, (cs.dropWhile p).head? = some c → (!endsAuthority .special c) = false :=
    fun c hc => by rw [(hp c (hstop c hc)).2]; rfl
  calc authorityText (cs.takeWhile p)
      = authorityText (cs.takeWhile p ++ cs.dropWhile p) := by
        rw [authorityText, authorityText, dropWhile_append_of_head _ hslash,
          takeWhile_append_of_head _ hends]
    _ = authorityText cs := by rw [List.takeWhile_append_dropWhile]

theorem authorityText_body (cs : List Char) :
    authorityText (splitSuffix cs).1 = authorityText cs := by
  rw [splitSuffix, authorityText_takeWhile, authorityText_takeWhile]
  · intro c hc
    obtain rfl : c = '#' := by simpa using hc
    decide
  · intro c hc
    obtain rfl : c = '?' := by simpa using hc
    decide

end AuthorityText

section ParseAuthority

variable {cs : List Char} {w : Char} {scheme : List Char} {more : Bool} {a : Authority}
  {front : List Char}

theorem splitCredentials_concat (cs : List Char) (hw : w ≠ '@') :
    (splitCredentials (cs ++ [w])).2 = (splitCredentials cs).2 ++ [w] := by
  have hcontains : (cs ++ [w]).contains '@' = cs.contains '@' := by
    simp [hw.symm]
  rw [splitCredentials, splitCredentials, hcontains]
  split
  · have hkeep : (w != '@') = true := by simpa using hw
    dsimp only
    rw [List.reverse_append, List.reverse_singleton, List.singleton_append,
      List.takeWhile_cons_of_pos (p := (· != '@')) hkeep, List.reverse_cons]
  · rfl

theorem splitCredentials_subset (cs : List Char) : (splitCredentials cs).2 ⊆ cs := by
  rw [splitCredentials]
  split
  · intro c hc
    have hc := (List.takeWhile_sublist _).subset (List.mem_reverse.mp hc)
    exact List.mem_reverse.mp hc
  · exact List.Subset.refl cs

/-- The last character of a text that ends in no colon belongs to the port, or to the host if
there is no port. -/
theorem splitHost_concat (inside : Bool) (cs : List Char) (hw : w ≠ ':') :
    (∃ host, splitHost inside (cs ++ [w]) = (host ++ [w], [])) ∨
      ∃ host port, splitHost inside (cs ++ [w]) = (host, ':' :: (port ++ [w])) ∧ port ⊆ cs := by
  induction cs generalizing inside with
  | nil =>
      refine Or.inl ⟨[], ?_⟩
      rw [List.nil_append, splitHost, if_neg (fun h => hw h.1)]
      rfl
  | cons c cs ih =>
      rw [List.cons_append, splitHost]
      split
      · next hcolon => exact Or.inr ⟨[], cs, by rw [hcolon.1], List.subset_cons_self c cs⟩
      · rcases ih (if c = '[' then true else if c = ']' then false else inside) with
          ⟨host, hhost⟩ | ⟨host, port, hport, hsubset⟩
        · exact Or.inl ⟨c :: host, by simp only [hhost]; rfl⟩
        · exact Or.inr ⟨c :: host, port, by simp only [hport],
            List.subset_cons_of_subset c hsubset⟩

/-- An authority of a special scheme is read only with a host and a port that are. -/
theorem parseAuthority_eq_ok (hread : parseAuthority .special scheme cs more = .ok (a, front)) :
    ∃ hostText portText host port, splitHost false (splitCredentials cs).2 = (hostText, portText) ∧
      hostText ≠ [] ∧ Host.parse hostText = .ok host ∧
      parsePort scheme ((portText.drop 1).takeWhile (· != '\\')) = .ok port := by
  unfold parseAuthority at hread
  cases hcredentials : splitCredentials cs with
  | mk credentials rest =>
      rw [hcredentials] at hread
      cases hsplit : splitHost false rest with
      | mk hostText portText =>
          simp only [hsplit] at hread
          split at hread
          · cases hread
          · next hneeded =>
              rw [if_neg (by decide)] at hread
              split at hread
              · cases hread
              · next host hhost =>
                  split at hread
                  · cases hread
                  · next port hport =>
                      refine ⟨hostText, portText, host, port, rfl, ?_, hhost, hport⟩
                      rintro rfl
                      exact hneeded rfl

theorem parseAuthority_more (scheme cs : List Char) (more : Bool) :
    parseAuthority .special scheme cs more = parseAuthority .special scheme cs true := by
  rfl

/-- Characters up to the blank that mean nothing in an authority. -/
theorem plain_of_le (hw : w.toNat ≤ 32) : w ≠ '@' ∧ w ≠ ':' ∧ w ≠ '\\' ∧ w.isDigit = false :=
  of_low (P := fun w => w ≠ '@' ∧ w ≠ ':' ∧ w ≠ '\\' ∧ w.isDigit = false) (by decide) hw

theorem parsePort_concat (ds : List Char) (hw : w.toNat ≤ 32) (port : Option Nat) :
    parsePort scheme (ds ++ [w]) ≠ .ok port := by
  rw [parsePort, if_neg (by simp), if_pos (by simp [(plain_of_le hw).2.2.2])]
  exact nofun

/-- No authority ends in a blank: the blank would belong to the host or to the port. -/
theorem parseAuthority_concat (hw : w.toNat ≤ 32) (hcs : '\\' ∉ cs) (read : Authority × List Char) :
    parseAuthority .special scheme (cs ++ [w]) more ≠ .ok read := by
  obtain ⟨hat, hcolon, hbackslash, -⟩ := plain_of_le hw
  intro hread
  obtain ⟨hostText, portText, host, port, hsplit, -, hhost, hport⟩ := parseAuthority_eq_ok hread
  rw [splitCredentials_concat cs hat] at hsplit
  rcases splitHost_concat false (splitCredentials cs).2 hcolon with
    ⟨front, hfront⟩ | ⟨front, digits, hdigits, hsubset⟩
  · obtain ⟨rfl, -⟩ := Prod.mk.inj (hfront.symm.trans hsplit)
    exact Host.parse_concat front hw host hhost
  · obtain ⟨-, rfl⟩ := Prod.mk.inj (hdigits.symm.trans hsplit)
    have hwhole : ((':' :: (digits ++ [w])).drop 1).takeWhile (· != '\\') = digits ++ [w] := by
      rw [List.drop_one, List.tail_cons, List.takeWhile_eq_self_iff]
      intro c hc
      have hne : c ≠ '\\' := by
        rintro rfl
        rcases List.mem_append.mp hc with hdigit | hlast
        · exact hcs (splitCredentials_subset cs (hsubset hdigit))
        · exact hbackslash (List.mem_singleton.mp hlast).symm
      simpa using hne
    rw [hwhole] at hport
    exact parsePort_concat digits hw port hport

theorem parseAuthority_nil (read : Authority × List Char) :
    parseAuthority .special scheme [] more ≠ .ok read :=
  nofun

/-- An authority that blanks follow is read only if there are none of them. -/
theorem eq_nil_of_parseAuthority {ws : List Char} (hws : Blank ws) (hcs : '\\' ∉ cs)
    (hread : parseAuthority .special scheme (cs ++ ws) more = .ok (a, front)) : ws = [] := by
  rcases List.eq_nil_or_concat ws with hnil | ⟨blanks, w, rfl⟩
  · exact hnil
  · rw [List.concat_eq_append, ← List.append_assoc] at hread
    have hlow : w.toNat ≤ 32 := hws w (by simp)
    refine absurd hread (parseAuthority_concat hlow ?_ _)
    intro hmem
    rcases List.mem_append.mp hmem with hmem | hmem
    · exact hcs hmem
    · exact absurd (hws '\\' (by simp [hmem])) (by decide)

end ParseAuthority

section Parse

variable {s : String} {u v : Url}

/-- The authority of a special scheme is read from its text. -/
theorem parseHierarchy_eq_ok {scheme cs : List Char} {more : Bool} {authority : Option Authority}
    {path : UrlPath} (hread : parseHierarchy .special scheme cs more = .ok (authority, path)) :
    ∃ a front, authority = some a ∧
      parseAuthority .special scheme (authorityText cs) true = .ok (a, front) := by
  cases hauthority : parseAuthority .special scheme (authorityText cs) true with
  | error e =>
      rw [parseHierarchy, ← authorityText, parseAuthority_more, hauthority] at hread
      cases hread
  | ok read =>
      rw [parseHierarchy, ← authorityText, parseAuthority_more, hauthority] at hread
      cases hread
      exact ⟨read.1, read.2, rfl, rfl⟩

/-- A URL is read scheme first; the authority of a special scheme is read from what follows. -/
theorem parse_eq_ok (hparse : parse s = .ok u) :
    ∃ rest, splitScheme? (unbroken (trimmed s.toList)) = some (u.scheme, rest) ∧
      (schemeKind u.scheme = .special → ∃ a front, u.authority = some a ∧
        parseAuthority .special u.scheme (authorityText rest) true = .ok (a, front)) := by
  unfold parse at hparse
  dsimp only at hparse
  split at hparse
  · cases hparse
  · next scheme rest hscheme =>
      split at hparse
      · cases hparse
      · next authority path hparts =>
          cases hparse
          refine ⟨rest, hscheme, fun hspecial => ?_⟩
          rw [if_neg (by rw [hspecial]; decide), hspecial] at hparts
          rw [← authorityText_body]
          exact parseHierarchy_eq_ok hparts

/-- Texts with one front have one scheme and one authority. -/
theorem authority_eq {t : String} {front tail other : List Char}
    (hs : unbroken (trimmed s.toList) = front ++ tail) (htail : Tail tail)
    (hplain : ∀ c ∈ tail, c.toNat ≤ 32 ∨ c = '/')
    (ht : unbroken (trimmed t.toList) = front ++ other) (hother : Tail other)
    (hu : parse s = .ok u) (hv : parse t = .ok v) (hspecial : schemeKind u.scheme = .special) :
    v.scheme = u.scheme ∧ v.authority = u.authority := by
  obtain ⟨restU, hschemeU, hauthorityU⟩ := parse_eq_ok hu
  obtain ⟨restV, hschemeV, hauthorityV⟩ := parse_eq_ok hv
  rw [hs, splitScheme?_append front htail] at hschemeU
  rw [ht, splitScheme?_append front hother] at hschemeV
  obtain ⟨⟨scheme, rest⟩, hfront, hpartsU⟩ := Option.map_eq_some_iff.mp hschemeU
  rw [hfront] at hschemeV
  obtain ⟨hsameU, rfl⟩ := Prod.mk.inj hpartsU
  obtain ⟨hsameV, rfl⟩ := Prod.mk.inj (Option.some.inj hschemeV)
  have hscheme : v.scheme = u.scheme := hsameV.symm.trans hsameU
  obtain ⟨a, frontU, ha, hreadU⟩ := hauthorityU hspecial
  obtain ⟨b, frontV, hb, hreadV⟩ := hauthorityV (hscheme ▸ hspecial)
  have hclean : '\\' ∉ authorityText rest := fun hmem => by
    have hends := not_ends_of_mem hmem
    cases hends
  -- the first text has an authority, and not one of blanks: so it stands in the front
  have hne : authorityText rest ≠ [] := by
    intro hnil
    have hblank := blank_authorityText hnil hplain
    have hread : parseAuthority .special u.scheme ([] ++ authorityText (rest ++ tail)) true =
        .ok (a, frontU) := hreadU
    rw [eq_nil_of_parseAuthority hblank List.not_mem_nil hread] at hreadU
    exact parseAuthority_nil _ hreadU
  have hread : ∀ {more : List Char} {read : Authority × List Char}, Tail more →
      parseAuthority .special u.scheme (authorityText (rest ++ more)) true = .ok read →
        authorityText (rest ++ more) = authorityText rest := by
    intro more read hmore hread
    obtain ⟨ws, hws, htext⟩ := authorityText_append hne hmore
    rw [htext] at hread ⊢
    rw [eq_nil_of_parseAuthority hws hclean hread, List.append_nil]
  rw [hread htail hreadU] at hreadU
  rw [hscheme] at hreadV
  rw [hread hother hreadV, hreadU] at hreadV
  refine ⟨hscheme, ?_⟩
  rw [ha, hb, (Prod.mk.inj (Except.ok.inj hreadV)).1]

end Parse

end SourceSync.Url
