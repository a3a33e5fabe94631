/-
The tokens a reading sends. A page is not asked for twice in a row, but nothing else
keeps a token from coming back: of all tokens sent before, only the last is compared.
So where what comes back depends on the request alone, the tokens of a reading that comes
to its end are different from each other; and a reading whose server leads from some
token around to the same one goes on for as long as it is answered.
-/
import Mathlib.Data.Finset.Card
import Mathlib.Logic.Relation
import SourceSync.Proofs.Connector.Pages

namespace SourceSync

open Json Http

namespace StreamDefinition

variable (s : StreamDefinition)

def tokensOf (visits : List Visit) : List String :=
  visits.filterMap Visit.token

/-- A visit to which a server gives the answer it has for the request. -/
def ServedBy (serve : ApiRequest → Except Fault Value) (first : ApiRequest) (v : Visit) : Prop :=
  v.body = serve (s.requestFor first v.token)

/-- The answers of a server lead from one token to another one. -/
def Steps (serve : ApiRequest → Except Fault Value) (first : ApiRequest)
    (token next : String) : Prop :=
  ∃ v : Visit, v.token = some token ∧ s.ServedBy serve first v ∧ s.LeadsTo v next

variable {s} {client : Client} {first : ApiRequest} {token : Option String} {n : Network}
variable {serve : ApiRequest → Except Fault Value} {visits : List Visit}

/-- Visits that send the same token and are answered by the same server lead to the same
token. -/
theorem LeadsTo.of_served {v w : Visit} {next : String} (hleads : s.LeadsTo v next)
    (hv : s.ServedBy serve first v) (hw : s.ServedBy serve first w) (hsent : v.token = token)
    (hagain : w.token = token) : s.LeadsTo w next := by
  have hbody : w.body = v.body := by
    rw [ServedBy] at hv hw
    rw [hv, hw, hsent, hagain]
  refine ⟨?_, ?_, ?_⟩
  · rw [recordsOf, hbody]
    exact hleads.holds
  · rw [hbody]
    exact hleads.names
  · rw [hagain, ← hsent]
    exact hleads.fresh

/-- Each visit sends the token that the one before it leads to. -/
theorem Visits.isChain (hvisits : s.Visits client first token n visits) :
    visits.IsChain (fun v w => ∃ next, s.LeadsTo v next ∧ w.token = some next) := by
  induction hvisits with
  | last hlast => exact .singleton _
  | turn hnext hrest ih =>
      obtain ⟨rest, rfl⟩ := hrest.exists_cons
      exact .cons_cons ⟨_, hnext, rfl⟩ ih

/-- What is left of the visits, from one of them on. -/
theorem Visits.suffix_of_mem (hvisits : s.Visits client first token n visits) {v : Visit}
    (hv : v ∈ visits) :
    ∃ m suffix, s.Visits client first v.token m suffix ∧ suffix <:+ visits := by
  induction hvisits with
  | last hlast =>
      rw [List.mem_singleton.mp hv]
      exact ⟨_, _, .last hlast, List.suffix_refl _⟩
  | turn hnext hrest ih =>
      rcases List.mem_cons.mp hv with rfl | hv
      · exact ⟨_, _, .turn hnext hrest, List.suffix_refl _⟩
      · obtain ⟨m, suffix, hsuffix, hsub⟩ := ih hv
        exact ⟨m, suffix, hsuffix, hsub.trans (List.suffix_cons _ _)⟩

/-- With answers that depend on the request alone, the token of the first page says how many
pages there are. -/
theorem Visits.length_eq_of_served {m : Network} {others : List Visit}
    (hvisits : s.Visits client first token n visits)
    (hserved : ∀ v ∈ visits, s.ServedBy serve first v)
    (hothers : s.Visits client first token m others)
    (hsame : ∀ v ∈ others, s.ServedBy serve first v) : others.length = visits.length := by
  induction hvisits generalizing m others with
  | last hlast =>
      cases hothers with
      | last _ => simp only [List.length_singleton]
      | turn hnext hrest =>
          have hv := hserved _ List.mem_cons_self
          have hw := hsame _ List.mem_cons_self
          exact (hlast _ (hnext.of_served hw hv rfl rfl)).elim
  | turn hnext hrest ih =>
      have hv := hserved _ List.mem_cons_self
      cases hothers with
      | last hlast =>
          have hw := hsame _ List.mem_cons_self
          exact (hlast _ (hnext.of_served hv hw rfl rfl)).elim
      | turn hother hmore =>
          have hw := hsame _ List.mem_cons_self
          cases (hnext.of_served hv hw rfl rfl).unique hother
          rw [List.length_cons, List.length_cons,
            ih (fun v hv => hserved v (List.mem_cons_of_mem _ hv)) hmore
              (fun v hv => hsame v (List.mem_cons_of_mem _ hv))]

/-- A reading that comes to its end has sent no token twice: from a token that comes back,
the same visits would follow again. -/
theorem Visits.tokens_nodup_of_served (hvisits : s.Visits client first token n visits)
    (hserved : ∀ v ∈ visits, s.ServedBy serve first v) : (tokensOf visits).Nodup := by
  induction hvisits with
  | @last token n hlast => cases token <;> simp [tokensOf, visit]
  | @turn token n next rest hnext hrest ih =>
      have hnodup := ih (fun v hv => hserved v (List.mem_cons_of_mem _ hv))
      cases token with
      | none => exact hnodup
      | some t =>
          refine List.nodup_cons.mpr ⟨fun hmem => ?_, hnodup⟩
          obtain ⟨v, hv, htoken⟩ := List.mem_filterMap.mp hmem
          obtain ⟨m, suffix, hsuffix, hsub⟩ := hrest.suffix_of_mem hv
          rw [htoken] at hsuffix
          have hlength := (Visits.turn hnext hrest).length_eq_of_served hserved hsuffix
            (fun w hw => hserved w (List.mem_cons_of_mem _ (hsub.subset hw)))
          have hle := hsub.length_le
          rw [List.length_cons] at hlength
          omega

/-- A token that is sent was given to begin with, or an earlier visit leads to it. -/
theorem Visits.leadsTo_of_mem_tokens (hvisits : s.Visits client first token n visits)
    {t : String} (ht : t ∈ tokensOf visits) :
    token = some t ∨ ∃ v ∈ visits.dropLast, s.LeadsTo v t := by
  induction hvisits with
  | last hlast =>
      obtain ⟨v, hv, htoken⟩ := List.mem_filterMap.mp ht
      rw [List.mem_singleton.mp hv] at htoken
      exact Or.inl htoken
  | turn hnext hrest ih =>
      obtain ⟨rest, rfl⟩ := hrest.exists_cons
      obtain ⟨v, hv, htoken⟩ := List.mem_filterMap.mp ht
      rw [List.dropLast_cons_cons]
      rcases List.mem_cons.mp hv with rfl | hv
      · exact Or.inl htoken
      · rcases ih (List.mem_filterMap.mpr ⟨v, hv, htoken⟩) with hsent | ⟨w, hw, hleads⟩
        · cases hsent
          exact Or.inr ⟨_, List.mem_cons_self, hnext⟩
        · exact Or.inr ⟨w, List.mem_cons_of_mem _ hw, hleads⟩

/-- Every visit sends a token, except for the first one if none was given. -/
theorem Visits.length_eq (hvisits : s.Visits client first token n visits) :
    visits.length + token.toList.length = (tokensOf visits).length + 1 := by
  induction hvisits with
  | @last token n hlast => cases token <;> rfl
  | @turn token n next rest hnext hrest ih =>
      have htokens : (tokensOf (s.visit client first token n :: rest)).length =
          token.toList.length + (tokensOf rest).length := by
        cases token with
        | none => exact (Nat.zero_add _).symm
        | some t => exact Nat.add_comm (tokensOf rest).length 1
      rw [Option.toList_some, List.length_singleton] at ih
      rw [List.length_cons, htokens]
      omega

/-- Each token that is sent from a token on is a step from the one before it. -/
theorem Visits.tokens_isChain {t : String} (hvisits : s.Visits client first (some t) n visits)
    (hserved : ∀ v ∈ visits.dropLast, s.ServedBy serve first v) :
    ∃ later, tokensOf visits = t :: later ∧ (t :: later).IsChain (s.Steps serve first) := by
  generalize htoken : some t = token at hvisits
  induction hvisits generalizing t with
  | last hlast =>
      subst htoken
      exact ⟨[], rfl, .singleton t⟩
  | turn hnext hrest ih =>
      subst htoken
      obtain ⟨rest, rfl⟩ := hrest.exists_cons
      rw [List.dropLast_cons_cons] at hserved
      obtain ⟨later, htokens, hchain⟩ :=
        ih (fun v hv => hserved v (List.mem_cons_of_mem _ hv)) rfl
      refine ⟨_ :: later, congrArg (t :: ·) htokens, .cons_cons ?_ hchain⟩
      exact ⟨_, rfl, hserved _ List.mem_cons_self, hnext⟩

/-- From each token that is sent, the answers lead to all that are sent after it. -/
theorem Visits.tokens_pairwise {t : String} (hvisits : s.Visits client first (some t) n visits)
    (hserved : ∀ v ∈ visits.dropLast, s.ServedBy serve first v) :
    (tokensOf visits).Pairwise (Relation.TransGen (s.Steps serve first)) := by
  obtain ⟨later, htokens, hchain⟩ := hvisits.tokens_isChain hserved
  rw [htokens]
  exact List.isChain_iff_pairwise.mp (hchain.imp (fun _ _ => .single))

/-- If no token that is sent leads back to itself, none is sent twice. -/
theorem Visits.tokens_nodup_of_open (hvisits : s.Visits client first none n visits)
    (hserved : ∀ v ∈ visits.dropLast, s.ServedBy serve first v)
    (hopen : ∀ t ∈ tokensOf visits, ¬ Relation.TransGen (s.Steps serve first) t t) :
    (tokensOf visits).Nodup := by
  cases hvisits with
  | last hlast => exact List.nodup_nil
  | turn hnext hrest =>
      obtain ⟨rest, rfl⟩ := hrest.exists_cons
      rw [List.dropLast_cons_cons] at hserved
      have hreaches := hrest.tokens_pairwise (fun v hv => hserved v (List.mem_cons_of_mem _ hv))
      refine hreaches.imp_of_mem ?_
      rintro t u ht - hsteps rfl
      exact hopen t ht hsteps

/-- A reading that sends no token twice has no more visits than the server uses tokens, and the
first one. -/
theorem Visits.length_le_card (hvisits : s.Visits client first none n visits)
    (hserved : ∀ v ∈ visits.dropLast, s.ServedBy serve first v) (hnodup : (tokensOf visits).Nodup)
    {tokens : Finset String}
    (huses : ∀ request body t, serve request = .ok body → s.tokenIn? body = some t → t ∈ tokens) :
    visits.length ≤ tokens.card + 1 := by
  have hknown : tokensOf visits ⊆ tokens.toList := by
    intro t ht
    rcases hvisits.leadsTo_of_mem_tokens ht with hnone | ⟨v, hv, hleads⟩
    · cases hnone
    · obtain ⟨body, hbody, hnamed⟩ := hleads.names
      exact Finset.mem_toList.mpr (huses _ body t ((hserved v hv).symm.trans hbody) hnamed)
  have hle := (hnodup.subperm hknown).length_le
  have hlength := hvisits.length_eq
  rw [Finset.length_toList] at hle
  rw [Option.toList_none, List.length_nil] at hlength
  omega

/-- The visits of a reading never send a token twice in a row. If what comes back is a function
of the request on all of them, no token is sent twice at all. If it is on all but the last one,
after which the reading might have gone on, that still holds unless the answers lead from a
token that is sent back to itself; then the number of visits is bounded by the number of tokens
that the server uses. -/
theorem tokens_of_visits (serve : ApiRequest → Except Fault Value) {config : Value}
    {state : Object}
    (hfirst : s.request ((Template.Context.ofConfig config).withState state) none = .ok first)
    (hvisits : s.Visits client first none n visits) :
    ((s.stream client config).read state n).pulls = visits.flatMap s.pullsOf ∧
    visits.IsChain (fun v w => v.token ≠ w.token) ∧
    ((∀ v ∈ visits, s.ServedBy serve first v) → (tokensOf visits).Nodup) ∧
    ((∀ v ∈ visits.dropLast, s.ServedBy serve first v) →
      (∀ t ∈ tokensOf visits, ¬ Relation.TransGen (s.Steps serve first) t t) →
      (tokensOf visits).Nodup ∧
        ∀ tokens : Finset String,
          (∀ request body t, serve request = .ok body → s.tokenIn? body = some t → t ∈ tokens) →
          visits.length ≤ tokens.card + 1) := by
  refine ⟨?_, ?_, hvisits.tokens_nodup_of_served, ?_⟩
  · obtain ⟨front, last, hothers, hreading⟩ := exists_visits client n hfirst
    rw [hreading, hvisits.unique hothers]
  · refine hvisits.isChain.imp ?_
    rintro v w ⟨next, hleads, htoken⟩ hsame
    exact hleads.fresh (hsame.trans htoken)
  · intro hserved hopen
    have hnodup := hvisits.tokens_nodup_of_open hserved hopen
    exact ⟨hnodup, fun tokens huses => hvisits.length_le_card hserved hnodup huses⟩

end StreamDefinition

namespace WheelExample

/-- The token that page number `k` names: two of them in turn. -/
def named (k : Nat) : Char := if k % 2 = 0 then 'a' else 'b'

/-- The token that page number `k` is asked for with. -/
def asked : Nat → Option String
  | 0 => none
  | k + 1 => some (mark (named k))

/-- The server: it names the second token to whoever comes with the first one. -/
def serve (request : ApiRequest) : Except Fault Value :=
  .ok (body (if request.query = [("at", mark 'a')] then 'b' else 'a'))

def answers (k left : Nat) : List Outcome :=
  (List.range' k left).map (fun i => .response (page (named i)))

theorem named_cases (k : Nat) : named k = 'a' ∨ named k = 'b' := by
  unfold named
  split
  · exact Or.inl rfl
  · exact Or.inr rfl

theorem named_succ (k : Nat) : named (k + 1) = if named k = 'a' then 'b' else 'a' := by
  unfold named
  split <;> split <;> first | rfl | omega

theorem asked_ne (k : Nat) : asked k ≠ some (mark (named k)) := by
  cases k with
  | zero => exact nofun
  | succ k =>
      rw [asked, named_succ]
      rcases named_cases k with hk | hk <;> rw [hk] <;> decide

theorem serve_asked (k : Nat) :
    serve (wheel.requestFor first (asked k)) = .ok (body (named k)) := by
  cases k with
  | zero => rfl
  | succ k =>
      have hquery : (wheel.requestFor first (asked (k + 1))).query = [("at", mark (named k))] := rfl
      rw [serve, hquery, named_succ]
      rcases named_cases k with hk | hk <;> rw [hk] <;> rfl

theorem visits_answers (left k : Nat) (received : List SentRequest) :
    ∃ front last, wheel.Visits client first (asked k) ⟨answers k left, received⟩ (front ++ [last]) ∧
      (∀ v ∈ front, wheel.ServedBy serve first v) ∧
      (front ++ [last]).map Visit.token = (List.range' k (left + 1)).map asked := by
  induction left generalizing k received with
  | zero =>
      refine ⟨[], _, .last ?_, nofun, rfl⟩
      intro next hleads
      exact absurd hleads.ahead_lt (Nat.not_lt_zero _)
  | succ left ih =>
      obtain ⟨sent, hvisit⟩ := visit_page (asked k) (named_cases k) (answers (k + 1) left) received
      obtain ⟨front, last, hvisits, hserved, htokens⟩ := ih (k + 1) (received ++ [sent])
      refine ⟨_ :: front, last, .of_visit_turn hvisit (leadsTo_page _ (asked_ne k)) hvisits, ?_, ?_⟩
      · intro v hv
        rcases List.mem_cons.mp hv with rfl | hv
        · exact (serve_asked k).symm
        · exact hserved v hv
      · rw [List.cons_append, List.map_cons, htokens]
        rfl

end WheelExample

open WheelExample in
/-- Two tokens that lead to each other: the reading goes around for as long as it is answered. -/
theorem StreamDefinition.tokens_come_back :
    (∀ answered, ∃ front last,
      wheel.Visits client first none (.scripted (answers 0 answered)) (front ++ [last]) ∧
        (∀ v ∈ front, wheel.ServedBy serve first v) ∧
        (front ++ [last]).map Visit.token = (List.range (answered + 1)).map asked) ∧
    asked 1 = some (mark 'a') ∧ asked 3 = some (mark 'a') := by
  refine ⟨fun answered => ?_, rfl, rfl⟩
  rw [List.range_eq_range']
  exact visits_answers answered 0 []

open WheelExample in
/-- A server that names one token only. -/
theorem StreamDefinition.tokens_of_visits_wheel :
    wheel.request ((Template.Context.ofConfig .null).withState []) none = .ok first ∧
    ∃ visits, wheel.Visits client first none twice visits ∧
      (∀ v ∈ visits, wheel.ServedBy (fun _ => .ok (body 'a')) first v) ∧
      (∀ t ∈ tokensOf visits,
        ¬ Relation.TransGen (wheel.Steps (fun _ => .ok (body 'a')) first) t t) ∧
      (tokensOf visits).Nodup ∧ visits.length ≤ Finset.card {mark 'a'} + 1 := by
  obtain ⟨after, final, hvisits⟩ := visits_twice
  have hserved : ∀ v ∈ [⟨none, .ok (body 'a'), after⟩, ⟨some (mark 'a'), .ok (body 'a'), final⟩],
      wheel.ServedBy (fun _ => .ok (body 'a')) first v := by
    intro v hv
    simp only [List.mem_cons, List.not_mem_nil, or_false] at hv
    rcases hv with rfl | rfl <;> rfl
  have hstep {t next : String}
      (hsteps : wheel.Steps (fun _ => .ok (body 'a')) first t next) :
      next = mark 'a' ∧ t ≠ mark 'a' := by
    obtain ⟨v, hsent, hbody, hleads⟩ := hsteps
    obtain ⟨found, hfound, hnames⟩ := hleads.names
    cases hbody.symm.trans hfound
    have hnext := Option.some.inj (hnames.symm.trans (tokenIn?_body 'a'))
    refine ⟨hnext, fun ht => hleads.fresh ?_⟩
    rw [hsent, ht, hnext]
  have hopen (t : String) :
      ¬ Relation.TransGen (wheel.Steps (fun _ => .ok (body 'a')) first) t t := by
    intro hcycle
    obtain ⟨_, hleaves, -⟩ := Relation.TransGen.head'_iff.mp hcycle
    obtain ⟨_, -, hreturns⟩ := Relation.TransGen.tail'_iff.mp hcycle
    exact (hstep hleaves).2 (hstep hreturns).1
  obtain ⟨-, -, -, hbound⟩ :=
    tokens_of_visits (fun _ => .ok (body 'a')) (request_first []) hvisits
  obtain ⟨hnodup, hlength⟩ := hbound (fun v hv => hserved v (List.mem_of_mem_dropLast hv))
    (fun t _ => hopen t)
  refine ⟨request_first [], _, hvisits, hserved, fun t _ => hopen t, hnodup, hlength _ ?_⟩
  intro request found t hfound hnames
  cases hfound
  exact Finset.mem_singleton.mpr (Option.some.inj (hnames.symm.trans (tokenIn?_body 'a')))

end SourceSync
