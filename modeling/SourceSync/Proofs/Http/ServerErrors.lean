/-
Requests that a server does not serve at first. While its answers say that it is busy or has failed
for a moment, the request is repeated, and the first answer that says neither ends it. Not every
error of a server counts as one of a moment: an answer that is none gives the request up, whatever
would have come behind it.
-/
import SourceSync.Proofs.Http.Retrying

namespace SourceSync.Http

/-- A server that is asked too often, or has failed. -/
def Response.IsServerError (r : Response) : Prop :=
  r.status = 429 ∨ 500 ≤ r.status ∧ r.status ≤ 599

/-- A server that did what it was asked for. -/
def Response.IsSuccess (r : Response) : Prop :=
  200 ≤ r.status ∧ r.status ≤ 299

/-- The errors of a server that are taken to pass. -/
def momentary : List Nat :=
  [429, 500, 502, 503, 504]

namespace Network

/-- A network in which the next attempts get these answers. -/
def answering (n : Network) (answers : List Response) : Network :=
  { n with ahead := answers.map .response ++ n.ahead }

theorem outcome_answering (n : Network) (before : List Response) (r : Response)
    (after : List Response) :
    (n.answering (before ++ r :: after)).outcome before.length = .response r := by
  simp [answering, outcome]

theorem outcome_answering_before {n : Network} {before after : List Response} {i : Nat}
    (hi : i < before.length) :
    (n.answering (before ++ after)).outcome i = .response before[i] := by
  simp [answering, outcome, List.getElem?_append_left, hi]

end Network

theorem transient_response_iff {r : Response} :
    (Outcome.response r).Transient ↔ r.status ∈ momentary :=
  ⟨fun htransient => by cases htransient; assumption, .response⟩

theorem Response.IsSuccess.not_momentary {r : Response} (hsuccess : r.IsSuccess) :
    r.status ∉ momentary := by
  intro hmem
  simp only [momentary, List.mem_cons, List.not_mem_nil, or_false] at hmem
  obtain ⟨-, hupper⟩ := hsuccess
  omega

namespace Client

variable {c : Client} {request : ApiRequest} {u : Url} {sent : SentRequest}
  {before : List Response} {r : Response}

variable (c sent) in
theorem answer_of_success (hsuccess : r.IsSuccess) : c.answer sent (.response r) = .ok r := by
  obtain ⟨-, hupper⟩ := hsuccess
  exact if_pos (Or.inl (by omega))

variable (c sent) in
theorem answer_of_serverError (herror : r.IsServerError) (hlasting : r.status ∉ momentary) :
    c.answer sent (.response r) = .error (.httpStatus r.status ((bodyText? r).getD "")) := by
  have hbusy : r.status ≠ 429 := fun hsame => hlasting (hsame ▸ List.mem_cons_self)
  obtain ⟨hlower, hupper⟩ := herror.resolve_left hbusy
  exact answer_of_error (by omega) hbusy

/-- The first answer that is no error of a moment decides, if there are retries for those before
it. -/
theorem send_answering (hurl : c.urlFor request.path = .ok u)
    (hsent : c.prepare u request = .ok sent) (hbefore : ∀ b ∈ before, b.status ∈ momentary)
    (hlasting : r.status ∉ momentary) (hbudget : before.length ≤ c.settings.retry.maxRetries)
    (n : Network) (after : List Response) :
    (c.send request (n.answering (before ++ r :: after))).attempts = before.length + 1 ∧
      (c.send request (n.answering (before ++ r :: after))).result =
        c.answer sent (.response r) := by
  have hretried : ∀ i < before.length,
      ((n.answering (before ++ r :: after)).outcome i).Transient := by
    intro i hi
    rw [Network.outcome_answering_before hi]
    exact transient_response_iff.mpr (hbefore _ (List.getElem_mem hi))
  have hsettled : ¬ ((n.answering (before ++ r :: after)).outcome before.length).Transient := by
    rw [Network.outcome_answering]
    exact fun htransient => hlasting (transient_response_iff.mp htransient)
  obtain ⟨retries, hcourse⟩ := c.exists_course sent c.settings.retry.maxRetries 0
    (n.answering (before ++ r :: after))
  have hretries : retries = before.length := by
    rw [hcourse.eq_min hretried hsettled, Nat.min_eq_left hbudget]
  rw [send_of_sent hurl hsent, hcourse.attempts_eq, hcourse.result_eq, hretries,
    Network.outcome_answering]
  exact ⟨rfl, rfl⟩

/-- Where the errors of a server do not all pass, one of them is the first that does not. -/
theorem exists_first_lasting {answers : List Response}
    (hlasting : ¬ ∀ r ∈ answers, r.status ∈ momentary) :
    ∃ before r after, answers = before ++ r :: after ∧ (∀ b ∈ before, b.status ∈ momentary) ∧
      r.status ∉ momentary := by
  cases hfind : answers.find? (fun r => decide (r.status ∉ momentary)) with
  | none =>
      refine absurd (fun r hr => ?_) hlasting
      simpa using List.find?_eq_none.mp hfind r hr
  | some r =>
      obtain ⟨hr, before, after, hanswers, hbefore⟩ := List.find?_eq_some_iff_append.mp hfind
      exact ⟨before, r, after, hanswers, fun b hb => by simpa using hbefore b hb,
        of_decide_eq_true hr⟩

/-- A request that a server answers with errors, no more than there are retries, and then serves,
is repeated until then exactly if all of these errors are such as pass. Otherwise the first that
is not ends it, and is what it comes to. -/
theorem server_errors_repeated_iff (hurl : c.urlFor request.path = .ok u)
    (hsent : c.prepare u request = .ok sent) (n : Network) {answers : List Response}
    {last : Response} (herrors : ∀ r ∈ answers, r.IsServerError)
    (hbudget : answers.length ≤ c.settings.retry.maxRetries) (hlast : last.IsSuccess) :
    let s := c.send request (n.answering (answers ++ [last]))
    (s.attempts = answers.length + 1 ∧ s.result = .ok last ↔
      ∀ r ∈ answers, r.status ∈ momentary) ∧
    ∀ before r after, answers = before ++ r :: after → (∀ b ∈ before, b.status ∈ momentary) →
      r.status ∉ momentary → s.attempts = before.length + 1 ∧
        s.result = .error (.httpStatus r.status ((bodyText? r).getD "")) := by
  intro s
  have hstops : ∀ before r after, answers = before ++ r :: after →
      (∀ b ∈ before, b.status ∈ momentary) → r.status ∉ momentary →
      s.attempts = before.length + 1 ∧
        s.result = .error (.httpStatus r.status ((bodyText? r).getD "")) := by
    rintro before r after rfl hbefore hlasting
    have hshorter : before.length ≤ c.settings.retry.maxRetries := by
      rw [List.length_append] at hbudget
      omega
    have herror : r.IsServerError := herrors r (List.mem_append_right _ List.mem_cons_self)
    rw [← answer_of_serverError c sent herror hlasting]
    have hends := send_answering hurl hsent hbefore hlasting hshorter n (after ++ [last])
    rwa [← List.cons_append, ← List.append_assoc] at hends
  refine ⟨⟨?_, ?_⟩, hstops⟩
  · rintro ⟨-, hserved⟩
    refine Decidable.byContradiction (fun hlasting => ?_)
    obtain ⟨before, r, after, hanswers, hbefore, hfirst⟩ := exists_first_lasting hlasting
    obtain ⟨-, hrefused⟩ := hstops before r after hanswers hbefore hfirst
    cases hrefused.symm.trans hserved
  · intro hpassing
    rw [← answer_of_success c sent hlast]
    exact send_answering hurl hsent hpassing hlast.not_momentary hbudget n []

end Client

open Client RetryExample in
/-- A server that is busy, then fails, then serves. -/
theorem Client.server_errors_repeated_iff_busy :
    ∃ sent, (clientFor "http://[::1]").urlFor request.path = .ok (urlWith "http") ∧
    (clientFor "http://[::1]").prepare (urlWith "http") request = .ok sent ∧
    (∀ r ∈ [answered 429, answered 503], r.IsServerError) ∧ (answered 200).IsSuccess ∧
    (∀ r ∈ [answered 429, answered 503], r.status ∈ momentary) ∧
    let s := (clientFor "http://[::1]").send request
      ((Network.scripted []).answering ([answered 429, answered 503] ++ [answered 200]))
    s.attempts = 3 ∧ s.result = .ok (answered 200) := by
  obtain ⟨sent, hsent, -⟩ :=
    exists_carries (headers_valid "http://[::1]") (u := urlWith "http") (Or.inl rfl)
  have herrors : ∀ r ∈ [answered 429, answered 503], r.IsServerError := by
    simp [Response.IsServerError, answered]
  have hlast : (answered 200).IsSuccess := ⟨by decide, by decide⟩
  have hpassing : ∀ r ∈ [answered 429, answered 503], r.status ∈ momentary := by decide
  obtain ⟨hserved, -⟩ := server_errors_repeated_iff urlFor_http hsent (.scripted []) herrors
    (by decide) hlast
  exact ⟨sent, urlFor_http, hsent, herrors, hlast, hpassing, hserved.mpr hpassing⟩

open Client RetryExample in
/-- A server that does not know how to serve a request gets it once, although it would serve it the
next time and two retries are left. -/
theorem Client.server_error_not_repeated :
    (answered 501).IsServerError ∧ (answered 200).IsSuccess ∧
    1 ≤ (clientFor "http://[::1]").settings.retry.maxRetries ∧
    (clientFor "http://[::1]").urlFor request.path = .ok (urlWith "http") ∧
    let s := (clientFor "http://[::1]").send request
      ((Network.scripted []).answering ([answered 501] ++ [answered 200]))
    s.attempts = 1 ∧ s.result = .error (.httpStatus 501 "") := by
  obtain ⟨sent, hsent, -⟩ :=
    exists_carries (headers_valid "http://[::1]") (u := urlWith "http") (Or.inl rfl)
  have herror : (answered 501).IsServerError := Or.inr ⟨by decide, by decide⟩
  have hlasting : (answered 501).status ∉ momentary := by decide
  have hnone : ∀ b ∈ ([] : List Response), b.status ∈ momentary := nofun
  have hends := send_answering urlFor_http hsent hnone hlasting (Nat.zero_le _) (.scripted [])
    [answered 200]
  have hbody : (bodyText? (answered 501)).getD "" = "" := rfl
  rw [answer_of_serverError _ sent herror hlasting, hbody] at hends
  exact ⟨herror, ⟨by decide, by decide⟩, by decide, urlFor_http, hends⟩

end SourceSync.Http
