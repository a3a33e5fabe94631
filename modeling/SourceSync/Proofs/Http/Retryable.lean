/-
What is repeated, and what is said to be worth repeating. Every attempt that another one followed
came to a retryable fault. A fault that ends a request before the retries are used up is not
retryable, but for those of the transport: a request that cannot be built, a connection that ends
without an answer and a redirect that leads nowhere are given up at once, although their faults
count as retryable.
-/
import SourceSync.Proofs.Http.ServerErrors

namespace SourceSync.Http

/-- Whether no connection could be made: of the faults of the transport, this one is repeated. -/
def TransportError.isConnect : TransportError → Bool
  | .unreachable _ => true
  | _ => false

namespace Client

variable {c : Client} {sent : SentRequest} {request : ApiRequest} {u : Url} {o : Outcome}

variable (c sent) in
/-- What may pass comes to a retryable fault. -/
theorem answer_of_transient (htransient : o.Transient) :
    ∃ f, c.answer sent o = .error f ∧ f.isRetryable = true := by
  cases htransient with
  | silence => exact ⟨_, rfl, rfl⟩
  | refusal => exact ⟨_, rfl, rfl⟩
  | deadEnd url => exact ⟨_, rfl, rfl⟩
  | @response r hstatus =>
      by_cases hbusy : r.status = 429
      · exact ⟨_, answer_of_busy hbusy, rfl⟩
      · refine ⟨_, answer_of_error (range_of_transient hstatus) hbusy, ?_⟩
        simpa [Fault.isRetryable, Fault.isRetryableStatus] using hstatus

/-- What does not pass comes to a retryable fault only where the transport fails, and not for want
of a connection. -/
theorem isRetryable_iff_of_settled {f : Fault} (hsettled : ¬ o.Transient)
    (hfault : c.answer sent o = .error f) :
    f.isRetryable = true ↔ ∃ e, f = .http e ∧ e.isConnect = false := by
  cases o with
  | silence => exact absurd .silence hsettled
  | refusal => exact absurd .refusal hsettled
  | deadEnd url => exact absurd (.deadEnd url) hsettled
  | hangUp =>
      cases hfault
      exact iff_of_true rfl ⟨_, rfl, rfl⟩
  | failure message causes =>
      cases hfault
      exact iff_of_true rfl ⟨_, rfl, rfl⟩
  | response r =>
      have hlasting : r.status ∉ [429, 500, 502, 503, 504] := fun hstatus =>
        hsettled (.response hstatus)
      have hbusy : r.status ≠ 429 := fun hsame => hlasting (hsame ▸ List.mem_cons_self)
      have hrange : ¬ (r.status < 400 ∨ 599 < r.status) := by
        intro haccepted
        rw [answer, if_pos haccepted] at hfault
        cases hfault
      rw [answer_of_error hrange hbusy] at hfault
      cases hfault
      apply iff_of_false
      · simpa [Fault.isRetryable, Fault.isRetryableStatus] using hlasting
      · rintro ⟨e, hsame, -⟩
        cases hsame

theorem isConnect_of_prepare {e : TransportError} (hunsent : c.prepare u request = .error e) :
    e.isConnect = false := by
  unfold prepare at hunsent
  dsimp only at hunsent
  split at hunsent
  · split at hunsent <;> cases hunsent
    rfl
  · cases hunsent
    rfl

section Unsent

variable (n : Network)

theorem send_of_unresolved {f : Fault} (hurl : c.urlFor request.path = .error f) :
    c.send request n = ⟨.error f, 0, [], n⟩ := by
  unfold send
  rw [hurl]

theorem send_of_unsent {e : TransportError} (hurl : c.urlFor request.path = .ok u)
    (hunsent : c.prepare u request = .error e) :
    c.send request n = .last (.error (.http e)) n := by
  unfold send
  rw [hurl]
  simp only [hunsent]

end Unsent

/-- Retries and faults agree, but for the faults of the transport. A fault that ends a request
early is retryable exactly if it is one of the transport, and not that no connection could be made.
An attempt with another one behind it came to a retryable fault. -/
theorem early_fault_retryable_iff (c : Client) (request : ApiRequest) (n : Network) :
    let s := c.send request n
    (∀ f, s.result = .error f → s.attempts < c.settings.retry.maxRetries + 1 →
      (f.isRetryable = true ↔ ∃ e, f = .http e ∧ e.isConnect = false)) ∧
    ∀ i, i + 1 < s.attempts → ∃ u sent f, c.urlFor request.path = .ok u ∧
      c.prepare u request = .ok sent ∧ c.answer sent (n.outcome i) = .error f ∧
      f.isRetryable = true := by
  intro s
  cases hurl : c.urlFor request.path with
  | error f =>
      have hsend : s = ⟨.error f, 0, [], n⟩ := send_of_unresolved n hurl
      rw [hsend]
      refine ⟨?_, fun i hi => absurd hi (Nat.not_lt_zero _)⟩
      intro _ hfault _
      obtain ⟨e, rfl⟩ := exists_of_urlFor hurl
      cases hfault
      apply iff_of_false
      · exact Bool.false_ne_true
      · rintro ⟨other, hsame, -⟩
        cases hsame
  | ok u =>
      cases hprepare : c.prepare u request with
      | error e =>
          have hsend : s = .last (.error (.http e)) n := send_of_unsent n hurl hprepare
          rw [hsend]
          refine ⟨?_, fun i hi => absurd hi (Nat.not_lt.mpr (Nat.le_add_left 1 i))⟩
          intro _ hfault _
          cases hfault
          exact iff_of_true rfl ⟨e, rfl, isConnect_of_prepare hprepare⟩
      | ok sent =>
          have hsend : s = c.attempts sent c.settings.retry.maxRetries 0 n :=
            send_of_sent hurl hprepare
          obtain ⟨k, hcourse⟩ := c.exists_course sent c.settings.retry.maxRetries 0 n
          rw [← hsend] at hcourse
          rw [hcourse.attempts_eq, hcourse.result_eq]
          refine ⟨?_, ?_⟩
          · intro f hfault hearly
            have hsettled : ¬ (n.outcome k).Transient :=
              hcourse.ended.resolve_left (by omega)
            exact isRetryable_iff_of_settled hsettled hfault
          · intro i hi
            obtain ⟨f, hanswer, hretryable⟩ :=
              answer_of_transient c sent (hcourse.retried i (by omega))
            exact ⟨u, sent, f, rfl, hprepare, hanswer, hretryable⟩

end Client

open Client RetryExample in
/-- A server that is broken at first, and then has no such thing. -/
theorem Client.early_fault_retryable_iff_missing :
    let n := (Network.scripted []).answering ([answered 503] ++ [answered 404])
    let s := (clientFor "http://[::1]").send request n
    s.result = .error (.httpStatus 404 "") ∧ s.attempts = 2 ∧
      s.attempts < (clientFor "http://[::1]").settings.retry.maxRetries + 1 ∧
      (Fault.httpStatus 404 "").isRetryable = false ∧
      ∃ sent f, (clientFor "http://[::1]").answer sent (n.outcome 0) = .error f ∧
        f.isRetryable = true := by
  intro n s
  obtain ⟨sent, hsent, -⟩ :=
    exists_carries (headers_valid "http://[::1]") (u := urlWith "http") (Or.inl rfl)
  have hbefore : ∀ b ∈ [answered 503], b.status ∈ momentary := by decide
  have hlasting : (answered 404).status ∉ momentary := by decide
  obtain ⟨hattempts, hresult⟩ :=
    send_answering urlFor_http hsent hbefore hlasting (by decide) (.scripted []) []
  have hfault : s.result = .error (.httpStatus 404 "") := hresult
  have htwo : s.attempts = 2 := hattempts
  have hearly : s.attempts < 3 := by omega
  obtain ⟨hended, hrepeated⟩ := early_fault_retryable_iff (clientFor "http://[::1]") request n
  obtain ⟨-, sent, f, -, -, hanswer, hretryable⟩ :=
    hrepeated 0 (Nat.lt_of_lt_of_eq Nat.one_lt_two htwo.symm)
  refine ⟨hfault, htwo, hearly, ?_, sent, f, hanswer, hretryable⟩
  rw [← Bool.not_eq_true, hended _ hfault hearly]
  rintro ⟨e, hsame, -⟩
  cases hsame

open Client RetryExample in
/-- A connection that ends without an answer gives a request up at its first attempt, although two
retries are left and its fault is retryable. -/
theorem Client.dropped_fault_not_repeated :
    let s := (clientFor "http://[::1]").send request
      (.scripted [.hangUp, .response (answered 200)])
    s.attempts < (clientFor "http://[::1]").settings.retry.maxRetries + 1 ∧
      ∃ f, s.result = .error f ∧ f.isRetryable = true := by
  obtain ⟨sent, hsent, -⟩ :=
    exists_carries (headers_valid "http://[::1]") (u := urlWith "http") (Or.inl rfl)
  have hsettled :
      ¬ ((Network.scripted [.hangUp, .response (answered 200)]).outcome 0).Transient := nofun
  intro s
  have hsend : s =
      .last (.error (.http (.dropped sent.shown))) ⟨[.response (answered 200)], [sent]⟩ :=
    (send_of_sent urlFor_http hsent).trans (attempts_of_settled hsettled 2 0)
  have hearly : 1 < 2 + 1 := by decide
  rw [hsend]
  exact ⟨hearly, _, rfl, rfl⟩

end SourceSync.Http
