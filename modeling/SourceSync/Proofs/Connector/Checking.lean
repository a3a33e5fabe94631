/-
What a check reports. It never breaks down: whatever goes wrong on the way to the last attempt, and
whatever that attempt meets, is a check that does not pass, with the message of the fault. A check
passes if its last attempt meets a response that is not an error; the streams come from the same
configuration and the same client, so they are there whenever a check has passed.
-/
import SourceSync.Proofs.Connector.Reading

namespace SourceSync

open Json Http Template

namespace Http.Client

variable {c : Client} {sent : SentRequest} {n : Network} {o : Outcome} {r : Response}
  {request : ApiRequest}

/-- An attempt comes to a response if it meets one whose status is not an error. -/
theorem answer_eq_ok_iff :
    c.answer sent o = .ok r ↔ o = .response r ∧ (r.status < 400 ∨ 599 < r.status) := by
  cases o with
  | response met =>
      by_cases hrange : met.status < 400 ∨ 599 < met.status
      · rw [answer, if_pos hrange]
        constructor
        · intro hsame
          cases hsame
          exact ⟨rfl, hrange⟩
        · rintro ⟨hsame, -⟩
          cases hsame
          rfl
      · rw [answer, if_neg hrange]
        constructor
        · intro hsame
          split at hsame <;> cases hsame
        · rintro ⟨hsame, haccepted⟩
          cases hsame
          exact absurd haccepted hrange
  | silence => simp [answer]
  | refusal => simp [answer]
  | deadEnd url => simp [answer]
  | hangUp => simp [answer]
  | failure message causes => simp [answer]

/-- The last attempt of a request meets this response: the URL of the request resolves, what is sent
can be built, and the outcome behind those of the attempts before the last one is the response. -/
structure LastMeets (c : Client) (request : ApiRequest) (n : Network) (r : Response) : Prop where
  built : ∃ u sent, c.urlFor request.path = .ok u ∧ c.prepare u request = .ok sent
  met : ∃ k, (c.send request n).attempts = k + 1 ∧ n.outcome k = .response r

theorem exists_of_send (hsend : (c.send request n).result = .ok r) :
    ∃ u sent, c.urlFor request.path = .ok u ∧ c.prepare u request = .ok sent := by
  unfold send at hsend
  split at hsend
  · cases hsend
  · next u hurl =>
      split at hsend
      · cases hsend
      · next sent hsent => exact ⟨u, sent, hurl, hsent⟩

/-- A request that is sent comes to what its last attempt met. -/
theorem exists_last {u : Url} (hurl : c.urlFor request.path = .ok u)
    (hsent : c.prepare u request = .ok sent) (n : Network) :
    ∃ k, (c.send request n).attempts = k + 1 ∧
      (c.send request n).result = c.answer sent (n.outcome k) := by
  rw [send_of_sent hurl hsent]
  obtain ⟨k, hcourse⟩ := c.exists_course sent c.settings.retry.maxRetries 0 n
  exact ⟨k, hcourse.attempts_eq, hcourse.result_eq⟩

/-- A request is answered if its last attempt meets a response whose status is not an error. -/
theorem send_eq_ok_iff : (c.send request n).result = .ok r ↔
    c.LastMeets request n r ∧ (r.status < 400 ∨ 599 < r.status) := by
  constructor
  · intro hsend
    obtain ⟨u, sent, hurl, hsent⟩ := exists_of_send hsend
    obtain ⟨k, hattempts, hresult⟩ := exists_last hurl hsent n
    obtain ⟨hmet, haccepted⟩ := answer_eq_ok_iff.mp (hresult.symm.trans hsend)
    exact ⟨⟨⟨u, sent, hurl, hsent⟩, k, hattempts, hmet⟩, haccepted⟩
  · rintro ⟨⟨⟨u, sent, hurl, hsent⟩, k, hattempts, hmet⟩, haccepted⟩
    obtain ⟨last, hlast, hresult⟩ := exists_last hurl hsent n
    have hsame : last = k := Nat.succ.inj (hlast.symm.trans hattempts)
    rw [hresult, hsame]
    exact answer_eq_ok_iff.mpr ⟨hmet, haccepted⟩

end Http.Client

namespace ConnectorDefinition

section Stages

variable {d : ConnectorDefinition} {config resolved : Value} {n : Network} {client : Client}
  {request : ApiRequest} {f : Fault}

/-- A configuration with all that a check needs: it can be resolved, and from what it resolves to,
the client and the request of the check can be made. -/
structure Equips (d : ConnectorDefinition) (config resolved : Value) (client : Client)
    (request : ApiRequest) : Prop where
  resolves : d.resolveConfig config = .ok resolved
  builds : d.client (.ofConfig resolved) = .ok client
  asks : d.checkRequest (.ofConfig resolved) = .ok request

/-- What can go wrong with a check, in the order of its stages. -/
inductive CheckFault (d : ConnectorDefinition) (config : Value) (n : Network) : Fault → Prop where
  | config {f : Fault} (hconfig : d.resolveConfig config = .error f) : CheckFault d config n f
  | client {resolved : Value} {f : Fault} (hresolved : d.resolveConfig config = .ok resolved)
      (hclient : d.client (.ofConfig resolved) = .error f) : CheckFault d config n f
  | request {resolved : Value} {client : Client} {f : Fault}
      (hresolved : d.resolveConfig config = .ok resolved)
      (hclient : d.client (.ofConfig resolved) = .ok client)
      (hrequest : d.checkRequest (.ofConfig resolved) = .error f) : CheckFault d config n f
  | sending {resolved : Value} {client : Client} {request : ApiRequest} {f : Fault}
      (hequips : d.Equips config resolved client request)
      (hsend : (client.send request n).result = .error f) : CheckFault d config n f

theorem Equips.checkParts (hequips : d.Equips config resolved client request) :
    d.checkParts config = .ok (client, request) := by
  rw [ConnectorDefinition.checkParts, bind_of_ok hequips.resolves, bind_of_ok hequips.builds,
    bind_of_ok hequips.asks]
  rfl

theorem exists_equips (hparts : d.checkParts config = .ok (client, request)) :
    ∃ resolved, d.Equips config resolved client request := by
  obtain ⟨resolved, hresolved, hparts⟩ := exists_of_bind_ok hparts
  obtain ⟨made, hclient, hparts⟩ := exists_of_bind_ok hparts
  obtain ⟨asked, hrequest, hparts⟩ := exists_of_bind_ok hparts
  cases hparts
  exact ⟨resolved, hresolved, hclient, hrequest⟩

/-- The streams are made of what the check is made of. -/
theorem Equips.dataStreams (hequips : d.Equips config resolved client request) :
    d.dataStreams config = .ok (d.built client resolved) := by
  rw [ConnectorDefinition.dataStreams, bind_of_ok hequips.resolves, bind_of_ok hequips.builds]
  rfl

theorem checkFault_of_checkParts (hparts : d.checkParts config = .error f) (n : Network) :
    d.CheckFault config n f := by
  rcases cases_of_bind_error hparts with hconfig | ⟨resolved, hresolved, hparts⟩
  · exact .config hconfig
  rcases cases_of_bind_error hparts with hclient | ⟨client, hclient, hparts⟩
  · exact .client hresolved hclient
  rcases cases_of_bind_error hparts with hrequest | ⟨request, hrequest, hparts⟩
  · exact .request hresolved hclient hrequest
  · cases hparts

theorem checkConnection_of_equips (hequips : d.Equips config resolved client request)
    (n : Network) :
    d.checkConnection config n =
      (match (client.send request n).result with
        | .ok _ => .passed
        | .error f => .failed f.message, (client.send request n).network) := by
  rw [checkConnection, hequips.checkParts]
  cases hsend : (client.send request n).result <;> simp only [hsend]

/-- Without a client or a request nothing is sent. -/
theorem checkConnection_of_error (hparts : d.checkParts config = .error f) (n : Network) :
    d.checkConnection config n = (.failed f.message, n) := by
  rw [checkConnection, hparts]

theorem source_check (d : ConnectorDefinition) (config : Value) (n : Network) :
    d.source.check config n =
      (.ok (d.checkConnection config n).1, (d.checkConnection config n).2) :=
  rfl

/-- A check passes with an answer, or fails with the message of its fault. -/
theorem checkConnection_cases (d : ConnectorDefinition) (config : Value) (n : Network) :
    (∃ resolved client request r, d.Equips config resolved client request ∧
      (client.send request n).result = .ok r ∧ (d.checkConnection config n).1 = .passed) ∨
    ∃ f, d.CheckFault config n f ∧ (d.checkConnection config n).1 = .failed f.message := by
  cases hparts : d.checkParts config with
  | error f =>
      rw [checkConnection_of_error hparts]
      exact Or.inr ⟨f, checkFault_of_checkParts hparts n, rfl⟩
  | ok parts =>
      obtain ⟨client, request⟩ := parts
      obtain ⟨resolved, hequips⟩ := exists_equips hparts
      rw [checkConnection_of_equips hequips]
      cases hsend : (client.send request n).result with
      | error f => exact Or.inr ⟨f, .sending hequips hsend, rfl⟩
      | ok r => exact Or.inl ⟨resolved, client, request, r, hequips, hsend, rfl⟩

end Stages

/-- A check never breaks down. It passes if the configuration equips it with a client and a request
and the last attempt meets a response that is not a client or server error; otherwise it reports
the message of the fault that ended it. Where it passes, the source has its streams. -/
theorem check_reports (d : ConnectorDefinition) (config : Value) (n : Network) :
    ∃ result after, d.source.check config n = (.ok result, after) ∧
      (result.success = true ↔ ∃ resolved client request r,
        d.Equips config resolved client request ∧ client.LastMeets request n r ∧
          (r.status < 400 ∨ 599 < r.status)) ∧
      (result.success = false → ∃ f, d.CheckFault config n f ∧ result = .failed f.message) ∧
      (result.success = true → ∃ streams, d.source.streams config = .ok streams) := by
  refine ⟨_, _, d.source_check config n, ?_⟩
  rcases d.checkConnection_cases config n with
    ⟨resolved, client, request, r, hequips, hsend, hpassed⟩ | ⟨f, hfault, hfailed⟩
  · rw [hpassed]
    refine ⟨?_, nofun, fun _ => ⟨_, streams_eq_ok_iff.mpr hequips.dataStreams⟩⟩
    exact ⟨fun _ => ⟨resolved, client, request, r, hequips, Client.send_eq_ok_iff.mp hsend⟩,
      fun _ => rfl⟩
  · have hfails : (d.checkConnection config n).1.success ≠ true := by
      rw [hfailed]
      exact Bool.false_ne_true
    refine ⟨⟨fun hsuccess => absurd hsuccess hfails, ?_⟩, fun _ => ⟨f, hfault, hfailed⟩,
      fun hsuccess => absurd hsuccess hfails⟩
    rintro ⟨resolved, client, request, r, hequips, hlast⟩
    rw [checkConnection_of_equips hequips, Client.send_eq_ok_iff.mpr hlast]
    rfl

end ConnectorDefinition

namespace CheckingExample

/-- A connector that is checked with a request of its own. -/
def definition : ConnectorDefinition where
  name := "accounts"
  version := ConnectorDefinition.initialVersion
  baseUrl := "http://[::1]"
  properties := .ofEntries [("region", ⟨none, none, false, true, some (.string "eu")⟩)]
  auth := .none
  http := .standard
  check := some ⟨"/up", ∅⟩
  headers := ∅
  streams := [⟨"s", "/s", ∅, ∅, "", none, none, none⟩]

/-- The configuration that null resolves to. -/
def whole : Value := .object [("region", .string "eu")]

def caller : Client := ⟨.forBase "http://[::1]", .none⟩

def probe : ApiRequest := ⟨"/up", [], []⟩

def answered (status : Nat) : Response := ⟨status, [], [], true⟩

def answering (status : Nat) : Network := .scripted [.response (answered status)]

theorem equips : definition.Equips .null whole caller probe where
  resolves := rfl
  builds := rfl
  asks := rfl

def url : Url where
  scheme := "http".toList
  authority := some ⟨[], none, .ipv6 [0, 0, 0, 0, 0, 0, 0, 1], none⟩
  path := .segments ["up".toList]
  query := none
  fragment := none

theorem urlFor_probe : caller.urlFor probe.path = .ok url := by
  have htext : caller.urlText probe.path = "http://[::1]/up" := rfl
  have hparse : Url.parse "http://[::1]/up" = .ok url := rfl
  exact Client.urlFor_eq_ok_iff.mpr (htext ▸ hparse)

theorem settled {status : Nat} (hrange : status < 400 ∨ 599 < status) :
    ¬ ((answering status).outcome 0).Transient := by
  intro htransient
  cases htransient with
  | response hstatus =>
      change status ∈ [429, 500, 502, 503, 504] at hstatus
      simp only [List.mem_cons, List.not_mem_nil, or_false] at hstatus
      omega

/-- An answer that is not an error is what the last attempt meets. -/
theorem lastMeets {status : Nat} (hrange : status < 400 ∨ 599 < status) :
    caller.LastMeets probe (answering status) (answered status) := by
  have hheaders : ∀ h ∈ caller.headers probe, isHeaderName h.1 ∧ isHeaderValue h.2 := nofun
  obtain ⟨sent, hsent, -⟩ : ∃ sent, caller.prepare url probe = .ok sent ∧ _ :=
    Client.exists_carries hheaders (Or.inl rfl)
  have hsend : caller.send probe (answering status) =
      .last (caller.answer sent (.response (answered status))) ⟨[], [sent]⟩ := by
    rw [Client.send_of_sent urlFor_probe hsent]
    exact Client.attempts_of_settled (settled hrange) _ 0
  refine ⟨⟨url, sent, urlFor_probe, hsent⟩, 0, ?_, rfl⟩
  rw [hsend]
  rfl

end CheckingExample

open CheckingExample in
/-- A server that answers lets the check pass. -/
theorem ConnectorDefinition.check_reports_answer :
    ∃ result after, definition.source.check .null (answering 200) = (.ok result, after) ∧
      result.success = true ∧ ∃ streams, definition.source.streams .null = .ok streams := by
  obtain ⟨result, after, hcheck, hpasses, -, hstreams⟩ :=
    check_reports definition .null (answering 200)
  have hsuccess : result.success = true :=
    hpasses.mpr ⟨whole, caller, probe, answered 200, equips, lastMeets (by decide), by decide⟩
  exact ⟨result, after, hcheck, hsuccess, hstreams hsuccess⟩

open CheckingExample in
/-- A status above those of errors lets the check pass as well. -/
theorem ConnectorDefinition.check_passes_unknown_status :
    definition.Equips .null whole caller probe ∧
    caller.LastMeets probe (answering 600) (answered 600) ∧ ¬ (answered 600).status < 400 ∧
    (definition.source.check .null (answering 600)).1 = .ok .passed := by
  have hlast : caller.LastMeets probe (answering 600) (answered 600) := lastMeets (by decide)
  have hsend := Client.send_eq_ok_iff.mpr ⟨hlast, Or.inr (by decide)⟩
  refine ⟨equips, hlast, by decide, ?_⟩
  rw [source_check, checkConnection_of_equips equips, hsend]

end SourceSync
