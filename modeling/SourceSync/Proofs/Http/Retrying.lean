/-
How a request is repeated. Attempts go on while what they meet may pass and retries are
left; what the last attempt meets decides the result. Every attempt sends the same request,
in which each query pair, header and credential stands once.
-/
import SourceSync.Proofs.Http.Sending

namespace SourceSync.Http

namespace Network

/-- What attempt number `i` from now on meets. Behind the outcomes ahead nobody answers. -/
def outcome (n : Network) (i : Nat) : Outcome :=
  n.ahead.getD i .refusal

theorem attempt_fst (n : Network) (sent : SentRequest) : (n.attempt sent).1 = n.outcome 0 := by
  obtain ⟨ahead, received⟩ := n
  cases ahead with
  | nil => rfl
  | cons o rest => cases o <;> rfl

theorem ahead_attempt (n : Network) (sent : SentRequest) :
    (n.attempt sent).2.ahead = n.ahead.drop 1 := by
  obtain ⟨ahead, received⟩ := n
  cases ahead with
  | nil => rfl
  | cons o rest => cases o <;> rfl

theorem outcome_attempt (n : Network) (sent : SentRequest) (i : Nat) :
    (n.attempt sent).2.outcome i = n.outcome (i + 1) := by
  simp only [outcome, ahead_attempt, List.getD_eq_getElem?_getD, List.getElem?_drop,
    Nat.add_comm 1]

/-- A refused attempt reaches no server; every other one does. -/
theorem received_attempt (n : Network) (sent : SentRequest) :
    (n.attempt sent).2.received =
      n.received ++ List.replicate (if n.outcome 0 = .refusal then 0 else 1) sent := by
  obtain ⟨ahead, received⟩ := n
  cases ahead with
  | nil => simp [attempt, outcome]
  | cons o rest => cases o <;> simp [attempt, outcome]

/-- How many of the next attempts reach a server. -/
def reached (n : Network) (attempts : Nat) : Nat :=
  (List.range attempts).countP (fun i => n.outcome i != .refusal)

theorem reached_succ (n : Network) (sent : SentRequest) (attempts : Nat) :
    n.reached (attempts + 1) =
      (if n.outcome 0 = .refusal then 0 else 1) + (n.attempt sent).2.reached attempts := by
  simp only [reached, List.range_succ_eq_map, List.countP_cons, List.countP_map,
    outcome_attempt]
  by_cases hrefused : n.outcome 0 = .refusal
  · simp [hrefused, Function.comp_def]
  · simp [hrefused, Function.comp_def, Nat.add_comm]

end Network

/-- What a later attempt may not meet again: no answer, no connection, or one of the statuses
of a server that is busy or broken. -/
inductive Outcome.Transient : Outcome → Prop where
  | silence : Transient .silence
  | refusal : Transient .refusal
  | deadEnd (url : String) : Transient (.deadEnd url)
  | response {r : Response} (hstatus : r.status ∈ [429, 500, 502, 503, 504]) :
      Transient (.response r)

/-- The wait that is asked for: only a server that is asked too often can do that. -/
def Outcome.requested? : Outcome → Option Duration
  | .response r => if r.status = 429 then Client.requestedWait? r else none
  | _ => none

namespace Client

variable {c : Client} {sent : SentRequest} {n : Network}

/-- What a single attempt comes to. Statuses from 400 to 599 are errors, all others are not. -/
def answer (c : Client) (sent : SentRequest) : Outcome → Except Fault Response
  | .response r =>
    if r.status < 400 ∨ 599 < r.status then .ok r
    else if r.status = 429 then
      .error (.rateLimited (((requestedWait? r).map Duration.seconds).getD 0))
    else .error (.httpStatus r.status ((bodyText? r).getD ""))
  | .silence => .error (.timeout (min c.settings.timeout.milliseconds 0xFFFFFFFFFFFFFFFF))
  | .refusal => .error (.http (.unreachable sent.shown))
  | .deadEnd url => .error (.http (.unreachable url))
  | .hangUp => .error (.http (.dropped sent.shown))
  | .failure message causes => .error (.http (.other message causes))

theorem answer_of_busy {r : Response} (hbusy : r.status = 429) :
    c.answer sent (.response r) =
      .error (.rateLimited (((requestedWait? r).map Duration.seconds).getD 0)) := by
  simp [answer, hbusy]

theorem answer_of_error {r : Response} (hrange : ¬ (r.status < 400 ∨ 599 < r.status))
    (hbusy : r.status ≠ 429) :
    c.answer sent (.response r) = .error (.httpStatus r.status ((bodyText? r).getD "")) := by
  simp only [answer, if_neg hrange, if_neg hbusy]

/-- The statuses of a server that is busy or broken are those of errors. -/
theorem range_of_transient {r : Response} (hstatus : r.status ∈ [429, 500, 502, 503, 504]) :
    ¬ (r.status < 400 ∨ 599 < r.status) := by
  simp only [List.mem_cons, List.not_mem_nil, or_false] at hstatus
  omega

variable (c sent) in
theorem judge_of_transient {o : Outcome} (htransient : o.Transient) :
    ∃ f, c.judge sent o = .retry f o.requested? ∧ c.answer sent o = .error f := by
  cases htransient with
  | silence => exact ⟨_, rfl, rfl⟩
  | refusal => exact ⟨_, rfl, rfl⟩
  | deadEnd url => exact ⟨_, rfl, rfl⟩
  | @response r hstatus =>
      by_cases hbusy : r.status = 429
      · refine ⟨_, ?_, answer_of_busy hbusy⟩
        simp [judge, judgeResponse, Outcome.requested?, hbusy]
      · have hrange := range_of_transient hstatus
        have hretryable : Fault.isRetryableStatus r.status = true := by
          simpa [Fault.isRetryableStatus] using hstatus
        refine ⟨_, ?_, answer_of_error hrange hbusy⟩
        simp only [judge, judgeResponse, if_neg hrange, if_neg hbusy, Fault.isRetryable,
          hretryable, if_true, Outcome.requested?]

variable (c sent) in
theorem judge_of_settled {o : Outcome} (hsettled : ¬ o.Transient) :
    (∃ r, c.judge sent o = .done r ∧ c.answer sent o = .ok r) ∨
      ∃ f, c.judge sent o = .fail f ∧ c.answer sent o = .error f := by
  cases o with
  | silence => exact absurd .silence hsettled
  | refusal => exact absurd .refusal hsettled
  | deadEnd url => exact absurd (.deadEnd url) hsettled
  | hangUp => exact Or.inr ⟨_, rfl, rfl⟩
  | failure message causes => exact Or.inr ⟨_, rfl, rfl⟩
  | response r =>
      by_cases hrange : r.status < 400 ∨ 599 < r.status
      · refine Or.inl ⟨r, ?_, ?_⟩
        · simp only [judge, judgeResponse, if_pos hrange]
        · simp only [answer, if_pos hrange]
      · have hstatus : r.status ∉ [429, 500, 502, 503, 504] := fun h => hsettled (.response h)
        have hbusy : r.status ≠ 429 := fun h => hstatus (h ▸ List.mem_cons_self)
        have hretryable : Fault.isRetryableStatus r.status = false := by
          simpa [Fault.isRetryableStatus] using hstatus
        refine Or.inr ⟨_, ?_, answer_of_error hrange hbusy⟩
        simp only [judge, judgeResponse, if_neg hrange, if_neg hbusy, Fault.isRetryable,
          hretryable, Bool.false_eq_true, if_false]

/-- The course of some attempts: the first `k` met something that may pass, and the one
behind them either did not or was the last one allowed. -/
structure Course (c : Client) (sent : SentRequest) (n : Network) (left retry k : Nat)
    (s : Sending) : Prop where
  within : k ≤ left
  retried : ∀ i < k, (n.outcome i).Transient
  ended : k = left ∨ ¬ (n.outcome k).Transient
  attempts_eq : s.attempts = k + 1
  result_eq : s.result = c.answer sent (n.outcome k)
  waits_eq : s.waits = (List.range k).map (fun i =>
    c.settings.retry.wait (n.outcome i).requested? (retry + i))
  ahead_eq : s.network.ahead = n.ahead.drop (k + 1)
  received_eq : s.network.received = n.received ++ List.replicate (n.reached (k + 1)) sent

theorem Course.of_last {left : Nat} (retry : Nat)
    (hended : 0 = left ∨ ¬ (n.outcome 0).Transient) :
    Course c sent n left retry 0
      (.last (c.answer sent (n.outcome 0)) (n.attempt sent).2) where
  within := Nat.zero_le left
  retried i hi := absurd hi (Nat.not_lt_zero i)
  ended := hended
  attempts_eq := rfl
  result_eq := rfl
  waits_eq := rfl
  ahead_eq := n.ahead_attempt sent
  received_eq := by
    rw [n.reached_succ sent]
    exact n.received_attempt sent

/-- One more attempt in front. -/
theorem Course.after {left retry k : Nat} {s : Sending}
    (hcourse : Course c sent (n.attempt sent).2 left (retry + 1) k s)
    (htransient : (n.outcome 0).Transient) :
    Course c sent n (left + 1) retry (k + 1)
      (s.after (c.settings.retry.wait (n.outcome 0).requested? retry)) where
  within := Nat.succ_le_succ hcourse.within
  retried i hi := by
    cases i with
    | zero => exact htransient
    | succ i =>
        rw [← n.outcome_attempt sent]
        exact hcourse.retried i (Nat.lt_of_succ_lt_succ hi)
  ended := by
    rw [← n.outcome_attempt sent]
    exact hcourse.ended.imp_left (congrArg Nat.succ)
  attempts_eq := congrArg Nat.succ hcourse.attempts_eq
  result_eq := by
    rw [← n.outcome_attempt sent]
    exact hcourse.result_eq
  waits_eq := by
    simp only [Sending.after, hcourse.waits_eq, List.range_succ_eq_map, List.map_cons,
      List.map_map, n.outcome_attempt sent, Function.comp_def, Nat.add_zero, Nat.succ_eq_add_one,
      Nat.add_assoc, Nat.add_comm 1]
  ahead_eq := by
    have hdrop := hcourse.ahead_eq
    rw [n.ahead_attempt sent, List.drop_drop, Nat.add_comm 1] at hdrop
    exact hdrop
  received_eq := by
    have hreceived := hcourse.received_eq
    rw [n.received_attempt sent, List.append_assoc, List.replicate_append_replicate,
      ← n.reached_succ sent] at hreceived
    exact hreceived

theorem attempts_of_settled (hsettled : ¬ (n.outcome 0).Transient) (left retry : Nat) :
    c.attempts sent left retry n =
      .last (c.answer sent (n.outcome 0)) (n.attempt sent).2 := by
  rw [attempts.eq_def]
  rcases judge_of_settled c sent hsettled with
    ⟨r, hjudge, hanswer⟩ | ⟨f, hjudge, hanswer⟩ <;>
    simp only [n.attempt_fst, hjudge, hanswer]

theorem attempts_zero (c : Client) (sent : SentRequest) (retry : Nat) (n : Network) :
    c.attempts sent 0 retry n = .last (c.answer sent (n.outcome 0)) (n.attempt sent).2 := by
  by_cases htransient : (n.outcome 0).Transient
  · obtain ⟨f, hjudge, hanswer⟩ := judge_of_transient c sent htransient
    rw [attempts.eq_def]
    simp only [n.attempt_fst, hjudge, hanswer]
  · exact attempts_of_settled htransient 0 retry

theorem attempts_succ_of_transient (htransient : (n.outcome 0).Transient) (left retry : Nat) :
    c.attempts sent (left + 1) retry n =
      Sending.after (c.settings.retry.wait (n.outcome 0).requested? retry)
        (c.attempts sent left (retry + 1) (n.attempt sent).2) := by
  obtain ⟨f, hjudge, -⟩ := judge_of_transient c sent htransient
  rw [attempts.eq_def]
  simp only [n.attempt_fst, hjudge]

/-- Attempts take such a course, by induction on the retries that are left. -/
theorem exists_course (c : Client) (sent : SentRequest) (left retry : Nat) (n : Network) :
    ∃ k, Course c sent n left retry k (c.attempts sent left retry n) := by
  induction left generalizing retry n with
  | zero =>
      rw [attempts_zero]
      exact ⟨0, .of_last retry (Or.inl rfl)⟩
  | succ left ih =>
      by_cases htransient : (n.outcome 0).Transient
      · obtain ⟨k, hcourse⟩ := ih (retry + 1) (n.attempt sent).2
        rw [attempts_succ_of_transient htransient]
        exact ⟨k + 1, hcourse.after htransient⟩
      · rw [attempts_of_settled htransient]
        exact ⟨0, .of_last retry (Or.inr htransient)⟩

/-- The first outcome that does not pass ends the attempts, if the retries last that long. -/
theorem Course.eq_min {left retry k j : Nat} {s : Sending}
    (hcourse : Course c sent n left retry k s) (hbefore : ∀ i < j, (n.outcome i).Transient)
    (hsettled : ¬ (n.outcome j).Transient) : k = min j left := by
  have hkj : k ≤ j :=
    Nat.le_of_not_lt (fun hlate => hsettled (hcourse.retried j hlate))
  rcases hcourse.ended with hleft | hended
  · omega
  · have hjk : j ≤ k :=
      Nat.le_of_not_lt (fun hearly => hended (hbefore k hearly))
    have hwithin := hcourse.within
    omega

theorem Course.eq_left {left retry k : Nat} {s : Sending}
    (hcourse : Course c sent n left retry k s) (hall : ∀ i, (n.outcome i).Transient) :
    k = left :=
  hcourse.ended.resolve_right (fun hended => hended (hall k))

section Request

def pairText (pair : String × String) : List Char :=
  formEncode pair.1 ++ '=' :: formEncode pair.2

/-- Pairs are written one behind the other, with a sign between them. -/
theorem foldl_appendPair (pairs : List (String × String)) (query : List Char) :
    pairs.foldl appendPair query =
      List.intercalate ['&'] ((if query.isEmpty then [] else [query]) ++ pairs.map pairText) := by
  induction pairs generalizing query with
  | nil =>
      by_cases hempty : query.isEmpty
      · simp [List.isEmpty_iff.mp hempty]
      · simp [hempty]
  | cons pair rest ih =>
      have hwritten : (appendPair query pair).isEmpty = false := by
        simp [appendPair]
      rw [List.foldl_cons, ih, hwritten]
      by_cases hempty : query.isEmpty
      · simp [appendPair, hempty, pairText]
      · cases rest <;> simp [appendPair, hempty, pairText, List.intercalate, List.intersperse]

/-- The URL of a request: the query of the resolved URL, if it has one that is not empty, the
pairs of the request, and the credentials if they go there. -/
def fullUrl (c : Client) (r : ApiRequest) (u : Url) : Url :=
  let plain := (moveCredentials u).1
  let pairs := r.query ++ c.authenticator.query?.toList
  let own := plain.query.getD []
  if pairs = [] then plain
  else
    { plain with
      query := some (List.intercalate ['&']
        ((if own.isEmpty then [] else [own]) ++ pairs.map pairText)) }

/-- A header as it is sent: its name in lower case, its value without blanks around it. -/
def sentForm (h : String × String) : String × String :=
  (h.1.toLower, String.ofList (Text.trim h.2.toList))

/-- Headers with a user agent behind them, unless one of them is it. -/
def withAgent (c : Client) (headers : List (String × String)) : List (String × String) :=
  headers ++ if headers.any (fun h => h.1 == "user-agent") then []
    else [("user-agent", c.settings.userAgent.getD defaultUserAgent)]

/-- The headers of a request: user name and password of the URL, the headers of the client,
those of the request and the credentials, if they go there, and a user agent. -/
def allHeaders (c : Client) (r : ApiRequest) (u : Url) : List (String × String) :=
  c.withAgent (((moveCredentials u).2 ++ c.headers r).map sentForm)

/-- A request as it is sent. -/
structure Carries (c : Client) (r : ApiRequest) (u : Url) (sent : SentRequest) : Prop where
  url : sent.url = String.ofList (c.fullUrl r u).textWithoutFragment
  shown : sent.shown = (c.fullUrl r u).text
  headers : sent.headers.Perm (c.allHeaders r u)

variable {r : ApiRequest} {u : Url}

theorem appendPair_ne_nil (query : List Char) (pair : String × String) :
    appendPair query pair ≠ [] := by
  simp [appendPair]

theorem foldl_appendPair_ne_nil {query : List Char} (hquery : query ≠ [])
    (pairs : List (String × String)) : pairs.foldl appendPair query ≠ [] := by
  induction pairs generalizing query with
  | nil => exact hquery
  | cons pair rest ih => exact ih (appendPair_ne_nil query pair)

theorem withQuery_cons (plain : Url) (pair : String × String) (rest : List (String × String)) :
    withQuery plain (pair :: rest) =
      { plain with query := some ((pair :: rest).foldl appendPair (plain.query.getD [])) } := by
  have hwritten : (pair :: rest).foldl appendPair (plain.query.getD []) ≠ [] :=
    foldl_appendPair_ne_nil (appendPair_ne_nil _ pair) rest
  unfold withQuery
  split
  · next hnil => exact absurd hnil hwritten
  · rfl

theorem fullUrl_eq {plain : Url} {credentials : List (String × String)}
    (hmoved : moveCredentials u = (plain, credentials)) :
    c.fullUrl r u =
      if (r.query ++ c.authenticator.query?.toList).isEmpty then plain
      else withQuery plain (r.query ++ c.authenticator.query?.toList) := by
  simp only [fullUrl, hmoved]
  cases r.query ++ c.authenticator.query?.toList with
  | nil => rfl
  | cons pair rest =>
      rw [withQuery_cons, foldl_appendPair]
      rfl

theorem sentHeaders_perm (c : Client) (chosen : List (String × String)) :
    (c.sentHeaders chosen).Perm (c.withAgent (chosen.map sentForm)) := by
  refine (List.mergeSort_perm _ _).trans ?_
  change List.Perm (if (chosen.map sentForm).any (fun h => h.1 == "user-agent") then
      chosen.map sentForm
    else chosen.map sentForm ++ [("user-agent", c.settings.userAgent.getD defaultUserAgent)]) _
  by_cases hagent : (chosen.map sentForm).any (fun h => h.1 == "user-agent")
  · rw [withAgent, if_pos hagent, if_pos hagent, List.append_nil]
  · rw [withAgent, if_neg hagent, if_neg hagent]

theorem headers_all (hheaders : ∀ h ∈ c.headers r, isHeaderName h.1 ∧ isHeaderValue h.2) :
    (c.headers r).all (fun h => isHeaderName h.1 && isHeaderValue h.2) = true := by
  rw [List.all_eq_true]
  intro h hh
  rw [Bool.and_eq_true]
  exact hheaders h hh

theorem prepare_of_scheme (hheaders : ∀ h ∈ c.headers r, isHeaderName h.1 ∧ isHeaderValue h.2)
    (hplain : u.scheme ≠ "http".toList) (hsecure : u.scheme ≠ "https".toList) :
    c.prepare u r = .error (.refusedScheme (c.fullUrl r u).text) := by
  have hscheme : ¬ (u.scheme = "http".toList ∨ u.scheme = "https".toList) :=
    not_or.mpr ⟨hplain, hsecure⟩
  obtain ⟨plain, credentials, hmoved⟩ :
      ∃ plain credentials, moveCredentials u = (plain, credentials) := ⟨_, _, rfl⟩
  simp only [prepare, if_pos (headers_all hheaders), if_neg hscheme, hmoved, fullUrl_eq hmoved]

/-- A request with valid headers is sent over HTTP, with all that belongs to it. -/
theorem exists_carries (hheaders : ∀ h ∈ c.headers r, isHeaderName h.1 ∧ isHeaderValue h.2)
    (hscheme : u.scheme = "http".toList ∨ u.scheme = "https".toList) :
    ∃ sent, c.prepare u r = .ok sent ∧ c.Carries r u sent := by
  obtain ⟨plain, credentials, hmoved⟩ :
      ∃ plain credentials, moveCredentials u = (plain, credentials) := ⟨_, _, rfl⟩
  refine ⟨⟨String.ofList (c.fullUrl r u).textWithoutFragment, (c.fullUrl r u).text,
    c.sentHeaders (credentials ++ c.headers r)⟩, ?_, rfl, rfl, ?_⟩
  · simp only [prepare, if_pos (headers_all hheaders), if_pos hscheme, hmoved, fullUrl_eq hmoved]
  · rw [allHeaders, hmoved]
    exact c.sentHeaders_perm (credentials ++ c.headers r)

end Request

theorem send_of_sent {r : ApiRequest} {u : Url} (hurl : c.urlFor r.path = .ok u)
    (hsent : c.prepare u r = .ok sent) :
    c.send r n = c.attempts sent c.settings.retry.maxRetries 0 n := by
  unfold send
  rw [hurl]
  simp only [hsent]

/-- A request whose URL does not resolve is not attempted, and one that cannot be built for its
URL fails before it is sent. Any other request with valid headers is attempted until an outcome
does not pass or the retries are used up, and comes to what its last attempt met. All attempts
send the same request, those that are not refused reach a server, and each but the last is
followed by the wait that its outcome and its number ask for. -/
theorem send_repeats (c : Client) (r : ApiRequest) (n : Network) :
    (∀ f, c.urlFor r.path = .error f → c.send r n = ⟨.error f, 0, [], n⟩) ∧
    ∀ u, c.urlFor r.path = .ok u → (∀ h ∈ c.headers r, isHeaderName h.1 ∧ isHeaderValue h.2) →
      (u.scheme ≠ "http".toList → u.scheme ≠ "https".toList →
        c.send r n = ⟨.error (.http (.refusedScheme (c.fullUrl r u).text)), 1, [], n⟩) ∧
      (u.scheme = "http".toList ∨ u.scheme = "https".toList →
        ∃ sent retries, c.Carries r u sent ∧
          let s := c.send r n
          let policy := c.settings.retry
          s.attempts = retries + 1 ∧
          (∀ j, (∀ i < j, (n.outcome i).Transient) → ¬ (n.outcome j).Transient →
            retries = min j policy.maxRetries) ∧
          ((∀ i, (n.outcome i).Transient) → retries = policy.maxRetries) ∧
          s.result = c.answer sent (n.outcome retries) ∧
          s.waits = (List.range retries).map (fun i => policy.wait (n.outcome i).requested? i) ∧
          s.network.received = n.received ++ List.replicate (n.reached s.attempts) sent) := by
  refine ⟨?_, ?_⟩
  · intro f hurl
    unfold send
    rw [hurl]
  · intro u hurl hheaders
    refine ⟨?_, ?_⟩
    · intro hplain hsecure
      have hprepare := prepare_of_scheme hheaders hplain hsecure
      unfold send
      rw [hurl]
      simp only [hprepare, Sending.last]
    · intro hscheme
      obtain ⟨sent, hsent, hcarries⟩ := exists_carries hheaders hscheme
      obtain ⟨retries, hcourse⟩ := c.exists_course sent c.settings.retry.maxRetries 0 n
      rw [← send_of_sent hurl hsent] at hcourse
      refine ⟨sent, retries, hcarries, hcourse.attempts_eq, ?_, hcourse.eq_left,
        hcourse.result_eq, ?_, ?_⟩
      · intro j hbefore hsettled
        exact hcourse.eq_min hbefore hsettled
      · simpa only [Nat.zero_add] using hcourse.waits_eq
      · rw [hcourse.attempts_eq]
        exact hcourse.received_eq

end Client

namespace RetryExample

/-- A client that retries twice and waits five seconds at most; its key goes into the query. -/
def clientFor (baseUrl : String) : Client :=
  ⟨{ ClientSettings.forBase baseUrl with retry := ⟨2, .ofSeconds 1, .ofSeconds 5⟩ },
    .apiKey "key" "k1" .query⟩

def request : ApiRequest := ⟨"/x?a=1", [("b", "2")], [("X-Trace", "7")]⟩

def urlWith (scheme : String) : Url where
  scheme := scheme.toList
  authority := some ⟨[], none, .ipv6 [0, 0, 0, 0, 0, 0, 0, 1], none⟩
  path := .segments ["x".toList]
  query := some "a=1".toList
  fragment := none

def answered (status : Nat) : Response := ⟨status, [("Retry-After", "7")], [], true⟩

/-- A server that asks for seven seconds, is silent, and then answers. -/
def network : Network := .scripted [.response (answered 429), .silence, .response (answered 200)]

theorem urlFor_http : (clientFor "http://[::1]").urlFor request.path = .ok (urlWith "http") := by
  have htext : (clientFor "http://[::1]").urlText request.path = "http://[::1]/x?a=1" := rfl
  have hparse : Url.parse "http://[::1]/x?a=1" = .ok (urlWith "http") := rfl
  exact Client.urlFor_eq_ok_iff.mpr (htext ▸ hparse)

theorem urlFor_ftp : (clientFor "ftp://[::1]").urlFor request.path = .ok (urlWith "ftp") := by
  have htext : (clientFor "ftp://[::1]").urlText request.path = "ftp://[::1]/x?a=1" := rfl
  have hparse : Url.parse "ftp://[::1]/x?a=1" = .ok (urlWith "ftp") := rfl
  exact Client.urlFor_eq_ok_iff.mpr (htext ▸ hparse)

theorem urlFor_nowhere :
    (clientFor "").urlFor request.path = .error (.invalidUrl .relativeWithoutBase) := by
  have htext : (clientFor "").urlText request.path = "/x?a=1" := rfl
  have hparse : Url.parse "/x?a=1" = .error .relativeWithoutBase := rfl
  unfold Client.urlFor
  rw [htext, hparse]

theorem headers_valid (baseUrl : String) :
    ∀ h ∈ (clientFor baseUrl).headers request, isHeaderName h.1 ∧ isHeaderValue h.2 := by
  intro h hh
  rw [List.mem_singleton.mp hh]
  decide

theorem outcome_settled : ¬ (network.outcome 2).Transient := by
  rintro ⟨⟩
  contradiction

theorem outcome_transient : ∀ i < 2, (network.outcome i).Transient := by
  intro i hi
  match i with
  | 0 => exact .response (by decide)
  | 1 => exact .silence

end RetryExample

open RetryExample in
/-- A URL that does not resolve, one for which nothing can be sent, and a request that is sent
three times, to a server that asks for more patience than the client has. -/
theorem Client.send_repeats_busy :
    ((clientFor "").urlFor request.path = .error (.invalidUrl .relativeWithoutBase) ∧
      ((clientFor "").send request network).attempts = 0) ∧
    ((clientFor "ftp://[::1]").urlFor request.path = .ok (urlWith "ftp") ∧
      ((clientFor "ftp://[::1]").send request network).network = network) ∧
    (clientFor "http://[::1]").urlFor request.path = .ok (urlWith "http") ∧
    (∀ h ∈ (clientFor "http://[::1]").headers request, isHeaderName h.1 ∧ isHeaderValue h.2) ∧
    (∀ i < 2, (network.outcome i).Transient) ∧ ¬ (network.outcome 2).Transient ∧
    let s := (clientFor "http://[::1]").send request network
    s.attempts = 3 ∧ s.result = .ok (answered 200) ∧
      s.waits = [.ofSeconds 5, .ofSeconds 2] ∧
      ∃ sent, sent.url = "http://[::1]/x?a=1&b=2&key=k1" ∧
        s.network.received = List.replicate 3 sent := by
  have hnowhere := ((clientFor "").send_repeats request network).1 _ urlFor_nowhere
  have hunsent := (((clientFor "ftp://[::1]").send_repeats request network).2 _ urlFor_ftp
    (headers_valid _)).1 (by decide) (by decide)
  obtain ⟨sent, retries, hcarries, hattempts, hfirst, -, hresult, hwaits, hreceived⟩ :=
    (((clientFor "http://[::1]").send_repeats request network).2 _ urlFor_http
      (headers_valid _)).2 (Or.inl rfl)
  have hretries : retries = 2 := hfirst 2 outcome_transient outcome_settled
  subst hretries
  refine ⟨⟨urlFor_nowhere, by rw [hnowhere]⟩, ⟨urlFor_ftp, by rw [hunsent]⟩, urlFor_http,
    headers_valid _, outcome_transient, outcome_settled, hattempts, hresult, ?_, sent, ?_, ?_⟩
  · rw [hwaits]
    decide +kernel
  · have hurl : ((clientFor "http://[::1]").fullUrl request (urlWith "http")).textWithoutFragment =
        "http://[::1]/x?a=1&b=2&key=k1".toList := by decide +kernel
    rw [hcarries.url, hurl, String.ofList_toList]
  · rw [hreceived, hattempts]
    rfl

open RetryExample in
/-- A status above those of errors is answered like a success. -/
theorem Client.send_accepts_unknown_status :
    let s := (clientFor "http://[::1]").send request (.scripted [.response (answered 600)])
    s.attempts = 1 ∧ ¬ (answered 600).status < 400 ∧ s.result = .ok (answered 600) := by
  have hsettled : ¬ ((Network.scripted [.response (answered 600)]).outcome 0).Transient := by
    rintro ⟨⟩
    contradiction
  obtain ⟨sent, hsent, -⟩ :=
    exists_carries (headers_valid "http://[::1]") (u := urlWith "http") (Or.inl rfl)
  have hsend : (clientFor "http://[::1]").send request (.scripted [.response (answered 600)]) =
      .last (.ok (answered 600)) ⟨[], [sent]⟩ := by
    rw [send_of_sent urlFor_http hsent]
    exact attempts_of_settled hsettled 2 0
  rw [hsend]
  exact ⟨rfl, by decide, rfl⟩

end SourceSync.Http
