/-
A stream read page by page. A visit is the fetch of one page: the token that asks for
it, the body that comes back, and the network behind it. What a reading yields is what
its visits hold, one visit after the other. A visit leads to the next one if its page
has records to take out and names a token that was not just sent.
-/
import SourceSync.Connector.Source
import SourceSync.Proofs.Http.Sending

namespace SourceSync

open Json Http

/-- The fetch of a page. -/
structure Visit where
  /-- The token that was sent. -/
  token : Option String
  /-- The body that came back. -/
  body : Except Fault Value
  /-- The network behind the fetch. -/
  network : Network

namespace StreamDefinition

variable (s : StreamDefinition)

def tokenPair (token : Option String) : List (String × String) :=
  match s.pagination, token with
  | some p, some t => [(p.pageParam, t)]
  | _, _ => []

/-- The request of the page for a token: that of the first page, and the token's pair behind
its query. -/
def requestFor (first : ApiRequest) (token : Option String) : ApiRequest :=
  { first with query := first.query ++ s.tokenPair token }

def visit (client : Client) (first : ApiRequest) (token : Option String) (n : Network) : Visit :=
  let fetched := client.fetchJson (s.requestFor first token) n
  ⟨token, fetched.1, fetched.2⟩

/-- The records of a visited page, all of them or none. -/
def recordsOf (v : Visit) : Except Fault (List Object) :=
  v.body.bind (fun body => Paging.extractRecords body s.recordPath)

/-- What a reading yields for a visit. While the records are pulled, the network stays as it
was behind the fetch. -/
def pullsOf (v : Visit) : List (Pull Network) :=
  match s.recordsOf v with
  | .ok records => records.map (fun r => ⟨.record r, v.network⟩)
  | .error f => [⟨.fault f, v.network⟩]

/-- The token of the next page that a body names. -/
def tokenIn? (body : Value) : Option String :=
  s.pagination.bind (fun p => Paging.nextPageToken body p.nextPagePath)

/-- A visit to a page that leads to another one. -/
structure LeadsTo (v : Visit) (next : String) : Prop where
  holds : ∃ records, s.recordsOf v = .ok records
  names : ∃ body, v.body = .ok body ∧ s.tokenIn? body = some next
  fresh : v.token ≠ some next

/-- The visits of a reading from a token and a network on: each begins at the network behind
the one before it, and sends the token its page leads to. -/
inductive Visits (client : Client) (first : ApiRequest) :
    Option String → Network → List Visit → Prop where
  | last {token : Option String} {n : Network}
      (hlast : ∀ next, ¬ s.LeadsTo (s.visit client first token n) next) :
      Visits client first token n [s.visit client first token n]
  | turn {token : Option String} {n : Network} {next : String} {rest : List Visit}
      (hnext : s.LeadsTo (s.visit client first token n) next)
      (hrest : Visits client first (some next) (s.visit client first token n).network rest) :
      Visits client first token n (s.visit client first token n :: rest)

variable {s} {client : Client} {c : Template.Context} {first : ApiRequest}
variable {token : Option String} {n : Network} {visits others : List Visit}

theorem request_eq (hfirst : s.request c none = .ok first) (token : Option String) :
    s.request c token = .ok (s.requestFor first token) := by
  obtain ⟨path, hpath, hfirst⟩ := exists_of_bind_ok hfirst
  obtain ⟨query, hquery, hfirst⟩ := exists_of_bind_ok hfirst
  obtain ⟨headers, hheaders, hfirst⟩ := exists_of_bind_ok hfirst
  have hnone : first = ⟨path, query, headers⟩ := by
    rw [← Except.ok.inj hfirst]
    cases s.pagination <;> simp
  subst hnone
  simp only [request, hpath, hquery, hheaders, requestFor, tokenPair]
  rfl

/-- The token that a page leads to is the one it names, unless that was just sent. -/
theorem leadsTo_iff {v : Visit} {body : Value} {records : List Object}
    (hbody : v.body = .ok body) (hrecords : s.recordsOf v = .ok records) (next : String) :
    s.LeadsTo v next ↔ (s.tokenIn? body).filter (fun t => some t != v.token) = some next := by
  rw [Option.filter_eq_some_iff, bne_iff_ne]
  constructor
  · rintro ⟨-, ⟨named, hnamed, hnames⟩, hfresh⟩
    cases hbody.symm.trans hnamed
    exact ⟨hnames, Ne.symm hfresh⟩
  · rintro ⟨hnames, hfresh⟩
    exact ⟨⟨records, hrecords⟩, ⟨body, hbody, hnames⟩, Ne.symm hfresh⟩

/-- A fetch is a visit: it fails, or gives the page's records and the token it leads to. -/
theorem fetch_cases (client : Client) (hfirst : s.request c none = .ok first)
    (token : Option String) (n : Network) :
    (∃ f, s.recordsOf (s.visit client first token n) = .error f ∧
      s.fetch client c token n = (.error f, (s.visit client first token n).network)) ∨
    ∃ page, s.recordsOf (s.visit client first token n) = .ok page.records ∧
      (∀ next, s.LeadsTo (s.visit client first token n) next ↔ page.next = some next) ∧
      s.fetch client c token n = (.ok page, (s.visit client first token n).network) := by
  have hfetch : s.fetch client c token n =
      ((s.visit client first token n).body.bind
          (Paging.Page.ofBody s.recordPath (s.pagination.map (·.nextPagePath)) token),
        (s.visit client first token n).network) := by
    simp only [fetch, request_eq hfirst, visit]
  cases hbody : (s.visit client first token n).body with
  | error f =>
      rw [hbody] at hfetch
      exact Or.inl ⟨f, by rw [recordsOf, hbody]; rfl, hfetch⟩
  | ok body =>
      have hrecordsOf : s.recordsOf (s.visit client first token n) =
          Paging.extractRecords body s.recordPath := by
        rw [recordsOf, hbody]
        rfl
      rw [hfetch, hbody, hrecordsOf]
      simp only [Except.bind, Paging.Page.ofBody, Option.bind_map, Function.comp_def]
      cases hrecords : Paging.extractRecords body s.recordPath with
      | error f => exact Or.inl ⟨f, rfl, rfl⟩
      | ok records =>
          exact Or.inr ⟨⟨records, _⟩, rfl, leadsTo_iff hbody (hrecordsOf.trans hrecords), rfl⟩

/-- A page that leads to another one has used up an outcome of the network. -/
theorem LeadsTo.ahead_lt {next : String}
    (hleads : s.LeadsTo (s.visit client first token n) next) :
    (s.visit client first token n).network.ahead.length < n.ahead.length := by
  obtain ⟨body, hbody, -⟩ := hleads.names
  simp only [visit] at hbody ⊢
  exact Client.fetchJson_ahead_lt hbody

theorem Visits.of_visit_last {v : Visit} (hvisit : s.visit client first token n = v)
    (hlast : ∀ next, ¬ s.LeadsTo v next) : s.Visits client first token n [v] := by
  subst hvisit
  exact .last hlast

theorem Visits.of_visit_turn {v : Visit} {next : String} {rest : List Visit}
    (hvisit : s.visit client first token n = v) (hnext : s.LeadsTo v next)
    (hrest : s.Visits client first (some next) v.network rest) :
    s.Visits client first token n (v :: rest) := by
  subst hvisit
  exact .turn hnext hrest

/-- A visit leads to one token at most. -/
theorem LeadsTo.unique {v : Visit} {next other : String} (hnext : s.LeadsTo v next)
    (hother : s.LeadsTo v other) : other = next := by
  obtain ⟨body, hbody, htoken⟩ := hnext.names
  obtain ⟨named, hnamed, hotherToken⟩ := hother.names
  cases hbody.symm.trans hnamed
  exact Option.some.inj (hotherToken.symm.trans htoken)

/-- The first visit is the one to the page of the given token. -/
theorem Visits.exists_cons (hvisits : s.Visits client first token n visits) :
    ∃ rest, visits = s.visit client first token n :: rest := by
  cases hvisits with
  | last hlast => exact ⟨[], rfl⟩
  | turn hnext hrest => exact ⟨_, rfl⟩

/-- A token and a network determine the visits. -/
theorem Visits.unique (hvisits : s.Visits client first token n visits)
    (hothers : s.Visits client first token n others) : visits = others := by
  induction hvisits generalizing others with
  | last hlast =>
      cases hothers with
      | last _ => rfl
      | turn hnext _ => exact (hlast _ hnext).elim
  | turn hnext _ ih =>
      cases hothers with
      | last hlast => exact (hlast _ hnext).elim
      | turn hother hrest =>
          cases hnext.unique hother
          rw [ih hrest]

/-- With more fuel than there are outcomes ahead, the pages are read to their end. -/
theorem pagesFrom_eq (client : Client) (hfirst : s.request c none = .ok first) {fuel : Nat}
    (token : Option String) (hfuel : n.ahead.length < fuel) :
    ∃ front last, s.Visits client first token n (front ++ [last]) ∧
      Paging.pagesFrom (s.fetch client c) fuel token n =
        ⟨(front ++ [last]).flatMap s.pullsOf, last.network⟩ := by
  induction fuel generalizing token n with
  | zero => omega
  | succ fuel ih =>
      have hend (hlast : ∀ next, ¬ s.LeadsTo (s.visit client first token n) next) :
          s.Visits client first token n ([] ++ [s.visit client first token n]) := .last hlast
      rcases fetch_cases client hfirst token n with
        ⟨f, hrecords, hfetch⟩ | ⟨⟨records, next⟩, hrecords, hleads, hfetch⟩
      · refine ⟨[], _, hend ?_, ?_⟩
        · rintro next ⟨⟨records, hholds⟩, -, -⟩
          cases hrecords.symm.trans hholds
        · simp only [Paging.pagesFrom, hfetch, List.nil_append, List.flatMap_singleton, pullsOf,
            hrecords]
      · simp only at hrecords hleads
        cases next with
        | none =>
            refine ⟨[], _, hend ?_, ?_⟩
            · intro next hnext
              cases (hleads next).mp hnext
            · simp only [Paging.pagesFrom, hfetch, List.nil_append, List.flatMap_singleton,
                pullsOf, hrecords]
        | some next =>
            have hnext := (hleads next).mpr rfl
            -- The page has used up an outcome, so what is left of the fuel is enough again.
            obtain ⟨front, last, hvisits, hpages⟩ := ih (some next)
              (Nat.lt_of_lt_of_le hnext.ahead_lt (Nat.le_of_lt_succ hfuel))
            refine ⟨s.visit client first token n :: front, last, .turn hnext hvisits, ?_⟩
            simp only [Paging.pagesFrom, hfetch, hpages, List.cons_append, List.flatMap_cons,
              pullsOf, hrecords]

/-- A reading whose first request can be made is the reading of its visits: the outcomes ahead
are fuel enough, since no page arrives without one. -/
theorem exists_visits (client : Client) {config : Value} {state : Object} (n : Network)
    (hfirst : s.request ((Template.Context.ofConfig config).withState state) none = .ok first) :
    ∃ front last, s.Visits client first none n (front ++ [last]) ∧
      (s.stream client config).read state n =
        ⟨(front ++ [last]).flatMap s.pullsOf, last.network⟩ :=
  pagesFrom_eq client hfirst none (Nat.lt_succ_self n.ahead.length)

end StreamDefinition

namespace WheelExample

/-- A stream whose pages hold one record each. -/
def wheel : StreamDefinition where
  name := "wheel"
  path := "/wheel"
  params := ∅
  headers := ∅
  recordPath := "spoke"
  schema := none
  pagination := some ⟨"next", "at"⟩
  incremental := none

def client : Client :=
  ⟨{ ClientSettings.forBase "http://[::1]" with retry := ⟨0, .ofSeconds 0, .ofSeconds 0⟩ }, .none⟩

def first : ApiRequest := .get "/wheel"

def url : Url where
  scheme := "http".toList
  authority := some ⟨[], none, .ipv6 [0, 0, 0, 0, 0, 0, 0, 1], none⟩
  path := .segments ["wheel".toList]
  query := none
  fragment := none

def mark (c : Char) : String := String.ofList [c]

def body (next : Char) : Value := .object [("next", .string (mark next)), ("spoke", .object [])]

def text (next : Char) : List Char :=
  ['\x7b', '"', 'n', 'e', 'x', 't', '"', ':', '"', next, '"', ',', '"', 's', 'p', 'o', 'k', 'e',
    '"', ':', '\x7b', '\x7d', '\x7d']

def page (next : Char) : Response :=
  ⟨200, [], (text next).map (fun c => UInt8.ofNat c.toNat), true⟩

theorem request_first (state : Object) :
    wheel.request ((Template.Context.ofConfig .null).withState state) none = .ok first :=
  rfl

theorem parse_first : Url.parse (client.urlText "/wheel") = .ok url := by
  have htext : client.urlText "/wheel" = "http://[::1]/wheel" := rfl
  have hparse : Url.parse "http://[::1]/wheel" = .ok url := rfl
  rw [htext, hparse]

theorem bodyJson_page {next : Char} (hnext : next = 'a' ∨ next = 'b') :
    Client.bodyJson (page next) = .ok (body next) := by
  have hdecoded : Text.Utf8.decodeLossy (page next).body = text next := by
    rcases hnext with rfl | rfl <;> rfl
  have hread : readWithin nestingLimit (text next) = .ok (body next) := by
    rcases hnext with rfl | rfl <;> rfl
  have hcomplete : (page next).complete = true := rfl
  have hbody : Client.bodyText? (page next) = some (String.ofList (text next)) := by
    rw [Client.bodyText?, if_pos hcomplete, hdecoded]
  have hsorted : (body next).sorted = body next := by
    have hne : "spoke" ≠ "next" := by decide
    have hafter : ¬ "spoke" < "next" := by decide
    simp only [body, Value.sorted, Value.sortedMembers, Table.ofList, List.foldl_cons,
      List.foldl_nil, Table.put, if_neg hne, if_neg hafter]
  simp only [Client.bodyJson, hbody, Json.readSorted, Json.read, String.toList_ofList, hread,
    Except.map, hsorted]

theorem visit_page (token : Option String) {next : Char} (hnext : next = 'a' ∨ next = 'b')
    (rest : List Outcome) (received : List SentRequest) :
    ∃ sent, wheel.visit client first token ⟨.response (page next) :: rest, received⟩ =
      ⟨token, .ok (body next), ⟨rest, received ++ [sent]⟩⟩ := by
  obtain ⟨sent, hsent⟩ : ∃ sent, client.prepare url (wheel.requestFor first token) = .ok sent :=
    ⟨_, rfl⟩
  have hurl : Url.parse (client.urlText (wheel.requestFor first token).path) = .ok url :=
    parse_first
  have hjudge : client.judge sent (.response (page next)) = .done (page next) := rfl
  have hfetch := Client.fetchJson_of_done hurl hsent
    (Network.attempt_response (page next) rest received sent) hjudge (bodyJson_page hnext)
  exact ⟨sent, by simp only [StreamDefinition.visit, hfetch]⟩

theorem tokenIn?_body (next : Char) : wheel.tokenIn? (body next) = some (mark next) := by
  have hlookup : (body next).lookup? "next" = some (.string (mark next)) := rfl
  simp [StreamDefinition.tokenIn?, wheel, Paging.nextPageToken, hlookup, mark]

theorem leadsTo_page {token : Option String} {next : Char} (n : Network)
    (hfresh : token ≠ some (mark next)) :
    wheel.LeadsTo ⟨token, .ok (body next), n⟩ (mark next) :=
  ⟨⟨[[]], rfl⟩, ⟨body next, rfl, tokenIn?_body next⟩, hfresh⟩

/-- A server that always names the same token. -/
def twice : Network := .scripted [.response (page 'a'), .response (page 'a')]

/-- A page that names the token it was asked for with is the last one. -/
theorem visits_twice : ∃ after final,
    wheel.Visits client first none twice
      [⟨none, .ok (body 'a'), after⟩, ⟨some (mark 'a'), .ok (body 'a'), final⟩] := by
  obtain ⟨sent, hvisit⟩ := visit_page none (Or.inl rfl) [.response (page 'a')] []
  obtain ⟨again, hlast⟩ := visit_page (some (mark 'a')) (Or.inl rfl) [] [sent]
  have hends : ∀ next, ¬ wheel.LeadsTo
      ⟨some (mark 'a'), .ok (body 'a'), ⟨[], [sent] ++ [again]⟩⟩ next := by
    rintro next ⟨-, ⟨found, hfound, hnames⟩, hfresh⟩
    cases hfound
    exact hfresh ((tokenIn?_body 'a').symm.trans hnames)
  refine ⟨_, _, .of_visit_turn hvisit (leadsTo_page _ nofun) (.of_visit_last hlast hends)⟩

end WheelExample

end SourceSync
