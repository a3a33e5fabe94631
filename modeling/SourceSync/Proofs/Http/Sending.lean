/-
What a request uses up of the network. Each attempt meets the first outcome ahead, so
an answered request has met its response behind the outcomes of the attempts before it.
-/
import SourceSync.Http.Client

namespace SourceSync.Http

theorem Network.attempt_response (r : Response) (rest : List Outcome)
    (received : List SentRequest) (sent : SentRequest) :
    Network.attempt ⟨.response r :: rest, received⟩ sent =
      (.response r, ⟨rest, received ++ [sent]⟩) :=
  rfl

/-- An attempt meets the first outcome ahead, or nobody answers it. -/
theorem Network.attempt_cases (n : Network) (sent : SentRequest) :
    n.attempt sent = (.refusal, n) ∨
      ∃ o after, n.attempt sent = (o, after) ∧ n.ahead = o :: after.ahead := by
  obtain ⟨ahead, received⟩ := n
  cases ahead with
  | nil => exact Or.inl rfl
  | cons o rest => cases o <;> exact Or.inr ⟨_, _, rfl, rfl⟩

namespace Client

variable {c : Client} {sent : SentRequest}

theorem urlFor_eq_ok_iff {path : String} {u : Url} :
    c.urlFor path = .ok u ↔ Url.parse (c.urlText path) = .ok u := by
  unfold urlFor
  cases Url.parse (c.urlText path) with
  | error e => exact ⟨nofun, nofun⟩
  | ok v => exact ⟨fun h => congrArg _ (Except.ok.inj h), fun h => congrArg _ (Except.ok.inj h)⟩

/-- A URL that does not resolve is no fault of the transport. -/
theorem exists_of_urlFor {path : String} {f : Fault} (hunresolved : c.urlFor path = .error f) :
    ∃ e, f = .invalidUrl e := by
  unfold urlFor at hunresolved
  split at hunresolved <;> cases hunresolved
  exact ⟨_, rfl⟩

/-- Only a response ends the attempts well. -/
theorem judge_eq_done {o : Outcome} {r : Response} (hjudge : c.judge sent o = .done r) :
    o = .response r := by
  cases o with
  | response met =>
      simp only [judge, judgeResponse] at hjudge
      split at hjudge
      · cases hjudge
        rfl
      · split at hjudge
        · cases hjudge
        · split at hjudge <;> cases hjudge
  | silence => cases hjudge
  | refusal => cases hjudge
  | deadEnd url => cases hjudge
  | hangUp => cases hjudge
  | failure message causes => cases hjudge

/-- After an attempt, a request is answered, has failed, or goes on with one retry less. -/
theorem attempts_cases (c : Client) (sent : SentRequest) (left retry : Nat) (n : Network) :
    (∃ r, (n.attempt sent).1 = .response r ∧
      c.attempts sent left retry n = .last (.ok r) (n.attempt sent).2) ∨
    (∃ f, c.attempts sent left retry n = .last (.error f) (n.attempt sent).2) ∨
    ∃ fewer wait, left = fewer + 1 ∧
      c.attempts sent left retry n =
        Sending.after wait (c.attempts sent fewer (retry + 1) (n.attempt sent).2) := by
  have hattempts := attempts.eq_def c sent left retry n
  cases hjudge : c.judge sent (n.attempt sent).1 with
  | done r =>
      simp only [hjudge] at hattempts
      exact Or.inl ⟨r, judge_eq_done hjudge, hattempts⟩
  | fail f =>
      simp only [hjudge] at hattempts
      exact Or.inr (Or.inl ⟨f, hattempts⟩)
  | retry f requested =>
      cases left with
      | zero =>
          simp only [hjudge] at hattempts
          exact Or.inr (Or.inl ⟨f, hattempts⟩)
      | succ fewer =>
          simp only [hjudge] at hattempts
          exact Or.inr (Or.inr ⟨fewer, _, rfl, hattempts⟩)

/-- Attempts that get a response have met it behind what the attempts before it met. -/
theorem attempts_answered {left retry : Nat} {n : Network} {r : Response}
    (hanswered : (c.attempts sent left retry n).result = .ok r) :
    ∃ met, n.ahead = met ++ .response r :: (c.attempts sent left retry n).network.ahead := by
  induction left using Nat.strongRecOn generalizing retry n with
  | _ left ih =>
      rcases c.attempts_cases sent left retry n with
        ⟨answer, hresponse, hattempts⟩ | ⟨f, hattempts⟩ | ⟨fewer, wait, rfl, hattempts⟩
      · rw [hattempts] at hanswered ⊢
        cases hanswered
        rcases n.attempt_cases sent with hrefused | ⟨o, after, hmet, hahead⟩
        · rw [hrefused] at hresponse
          cases hresponse
        · rw [hmet] at hresponse ⊢
          cases hresponse
          exact ⟨[], hahead⟩
      · rw [hattempts] at hanswered
        cases hanswered
      · rw [hattempts] at hanswered ⊢
        obtain ⟨met, hmet⟩ := ih fewer (Nat.lt_succ_self fewer) hanswered
        rcases n.attempt_cases sent with hrefused | ⟨o, after, hattempt, hahead⟩
        · rw [hrefused] at hmet ⊢
          exact ⟨met, hmet⟩
        · rw [hattempt] at hmet ⊢
          exact ⟨o :: met, by rw [hahead, hmet]; rfl⟩

theorem send_answered {request : ApiRequest} {n : Network} {r : Response}
    (hanswered : (c.send request n).result = .ok r) :
    ∃ met, n.ahead = met ++ .response r :: (c.send request n).network.ahead := by
  unfold send at hanswered ⊢
  cases hurl : c.urlFor request.path with
  | error f => rw [hurl] at hanswered; cases hanswered
  | ok u =>
      cases hsent : c.prepare u request with
      | error e => rw [hurl] at hanswered; simp only [hsent] at hanswered; cases hanswered
      | ok sent =>
          rw [hurl] at hanswered
          simp only [hsent] at hanswered ⊢
          exact attempts_answered hanswered

/-- A body that arrives has used up an outcome of the network. -/
theorem fetchJson_ahead_lt {request : ApiRequest} {n : Network} {body : Json.Value}
    (hbody : (c.fetchJson request n).1 = .ok body) :
    (c.fetchJson request n).2.ahead.length < n.ahead.length := by
  simp only [fetchJson] at hbody ⊢
  cases hresult : (c.send request n).result with
  | error f => rw [hresult] at hbody; cases hbody
  | ok r =>
      obtain ⟨met, hmet⟩ := send_answered hresult
      rw [hmet, List.length_append, List.length_cons]
      omega

/-- A request whose first attempt is answered well. -/
theorem fetchJson_of_done {request : ApiRequest} {u : Url} {o : Outcome} {n after : Network}
    {r : Response} {body : Json.Value} (hurl : Url.parse (c.urlText request.path) = .ok u)
    (hsent : c.prepare u request = .ok sent) (hattempt : n.attempt sent = (o, after))
    (hjudge : c.judge sent o = .done r) (hbody : bodyJson r = .ok body) :
    c.fetchJson request n = (.ok body, after) := by
  have hfor : c.urlFor request.path = .ok u := urlFor_eq_ok_iff.mpr hurl
  have hattempts (left : Nat) : c.attempts sent left 0 n = .last (.ok r) after := by
    rw [attempts.eq_def]
    simp only [hattempt, hjudge]
  have hsend : c.send request n = .last (.ok r) after := by
    unfold send
    rw [hfor]
    simp only [hsent, hattempts]
  simp only [fetchJson, hsend, Sending.last, Except.bind, hbody]

end Client

end SourceSync.Http
