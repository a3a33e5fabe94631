/-
What a declared stream yields. Its reading is made of records, and ends early only with a
fault of a page: one that could not be asked for, did not arrive, or could not be taken
apart. It never breaks down, and its cursor takes every record.
-/
import SourceSync.Connector.Source
import SourceSync.Proofs.Http.Retrying
import SourceSync.Proofs.Sync.Chapter

namespace SourceSync

open Json Http

/-- The faults of a page. -/
inductive Fault.OfPage : Fault → Prop where
  | undefinedVariable (names : String) : OfPage (.undefinedVariable names)
  | invalidUrl (cause : Url.ParseError) : OfPage (.invalidUrl cause)
  | http (cause : TransportError) : OfPage (.http cause)
  | httpStatus (status : Nat) (body : String) : OfPage (.httpStatus status body)
  | rateLimited (seconds : Nat) : OfPage (.rateLimited seconds)
  | timeout (milliseconds : Nat) : OfPage (.timeout milliseconds)
  | decode (message : String) : OfPage (.decode message)
  | recordExtraction (path message : String) : OfPage (.recordExtraction path message)

section Requests

variable {f : Fault} {c : Template.Context}

theorem Template.render_error {template : String} (hrender : render template c = .error f) :
    f.OfPage := by
  unfold render at hrender
  split at hrender
  · cases hrender
  · cases hrender
    exact .undefinedVariable _

theorem Template.renderParams_error {params : Table String}
    (hrender : renderParams params c = .error f) : f.OfPage := by
  induction params with
  | nil => cases hrender
  | cons param rest ih =>
      obtain ⟨key, template⟩ := param
      unfold renderParams at hrender
      split at hrender
      · exact ih hrender
      · split at hrender
        · next g hfirst =>
            cases hrender
            exact render_error hfirst
        · split at hrender
          · next g hrest =>
              cases hrender
              exact ih hrest
          · cases hrender

theorem ConnectorDefinition.renderAll_error {templates : Table String}
    (hrender : renderAll c templates = .error f) : f.OfPage := by
  induction templates with
  | nil => cases hrender
  | cons entry rest ih =>
      rcases cases_of_bind_error hrender with hfirst | ⟨value, -, hrender⟩
      · exact Template.render_error hfirst
      · rcases cases_of_bind_error hrender with hrest | ⟨more, -, hrender⟩
        · exact ih hrest
        · cases hrender

theorem StreamDefinition.request_error {s : StreamDefinition} {token : Option String}
    (hrequest : s.request c token = .error f) : f.OfPage := by
  rcases cases_of_bind_error hrequest with hpath | ⟨path, -, hrequest⟩
  · exact Template.render_error hpath
  rcases cases_of_bind_error hrequest with hquery | ⟨query, -, hrequest⟩
  · exact Template.renderParams_error hquery
  rcases cases_of_bind_error hrequest with hheaders | ⟨headers, -, hrequest⟩
  · exact ConnectorDefinition.renderAll_error hheaders
  · cases hrequest

end Requests

section Pages

variable {f : Fault} {client : Client} {n : Network}

theorem Http.Client.answer_error {sent : SentRequest} {o : Outcome}
    (hanswer : client.answer sent o = .error f) : f.OfPage := by
  cases o with
  | silence =>
      cases hanswer
      exact .timeout _
  | refusal =>
      cases hanswer
      exact .http _
  | deadEnd url =>
      cases hanswer
      exact .http _
  | hangUp =>
      cases hanswer
      exact .http _
  | failure message causes =>
      cases hanswer
      exact .http _
  | response r =>
      simp only [answer] at hanswer
      split at hanswer
      · cases hanswer
      · split at hanswer
        · cases hanswer
          exact .rateLimited _
        · cases hanswer
          exact .httpStatus _ _

theorem Http.Client.send_error {r : ApiRequest} (hsend : (client.send r n).result = .error f) :
    f.OfPage := by
  unfold send at hsend
  split at hsend
  · next g hurl =>
      cases hsend
      obtain ⟨e, rfl⟩ := exists_of_urlFor hurl
      exact .invalidUrl e
  · split at hsend
    · cases hsend
      exact .http _
    · next u _ sent _ =>
        obtain ⟨k, hcourse⟩ := client.exists_course sent client.settings.retry.maxRetries 0 n
        exact answer_error (hcourse.result_eq.symm.trans hsend)

theorem Http.Client.fetchJson_error {r : ApiRequest}
    (hfetch : (client.fetchJson r n).1 = .error f) : f.OfPage := by
  rcases cases_of_bind_error hfetch with hsend | ⟨answered, -, hbody⟩
  · exact send_error hsend
  · unfold bodyJson at hbody
    split at hbody
    · cases hbody
      exact .decode _
    · split at hbody
      · cases hbody
      · cases hbody
        exact .decode _

theorem Paging.objects_error {path : String} {items : List Value}
    (hobjects : objects path items = .error f) : f.OfPage := by
  induction items with
  | nil => cases hobjects
  | cons item rest ih =>
      unfold objects at hobjects
      split at hobjects
      · next heq => cases heq
      · next r others heq =>
          cases heq
          cases hrest : objects path rest with
          | error g =>
              rw [hrest] at hobjects
              cases hobjects
              exact ih hrest
          | ok records =>
              rw [hrest] at hobjects
              cases hobjects
      · cases hobjects
        exact .recordExtraction _ _

theorem Paging.extractRecords_error {page : Value} {path : String}
    (hextract : extractRecords page path = .error f) : f.OfPage := by
  unfold extractRecords at hextract
  split at hextract
  · cases hextract
    exact .recordExtraction _ _
  · exact objects_error hextract
  · cases hextract
  · cases hextract
  · cases hextract
    exact .recordExtraction _ _

theorem StreamDefinition.fetch_error {s : StreamDefinition} {c : Template.Context}
    {token : Option String} (hfetch : (s.fetch client c token n).1 = .error f) : f.OfPage := by
  unfold fetch at hfetch
  split at hfetch
  · next g hrequest =>
      cases hfetch
      exact request_error hrequest
  · next request hrequest =>
      rcases cases_of_bind_error hfetch with hbody | ⟨body, -, hpage⟩
      · exact Client.fetchJson_error hbody
      · cases hextract : Paging.extractRecords body s.recordPath with
        | error g =>
            rw [Paging.Page.ofBody, hextract] at hpage
            cases hpage
            exact Paging.extractRecords_error hextract
        | ok records =>
            rw [Paging.Page.ofBody, hextract] at hpage
            cases hpage

/-- A pull of pages yields a record or the fault of a fetch. -/
theorem Paging.pagesFrom_pulls {fetch : Fetch}
    (hfetch : ∀ token n f, (fetch token n).1 = .error f → f.OfPage) (fuel : Nat)
    (token : Option String) (n : Network) :
    ∀ pull ∈ (pagesFrom fetch fuel token n).pulls,
      (∃ r, pull.item = .record r) ∨ ∃ f, pull.item = .fault f ∧ f.OfPage := by
  induction fuel generalizing token n with
  | zero => exact nofun
  | succ fuel ih =>
      intro pull hpull
      unfold pagesFrom at hpull
      split at hpull
      · next f after hfault =>
          rw [List.mem_singleton.mp hpull]
          exact Or.inr ⟨f, rfl, hfetch token n f (congrArg Prod.fst hfault)⟩
      · next page after _ =>
          have hrecords : ∀ pull ∈ page.records.map (fun r => (⟨.record r, after⟩ : Pull Network)),
              ∃ r, pull.item = .record r := by
            intro pull hpull
            obtain ⟨r, -, rfl⟩ := List.mem_map.mp hpull
            exact ⟨r, rfl⟩
          split at hpull
          · exact Or.inl (hrecords pull hpull)
          · next next _ =>
              rcases List.mem_append.mp hpull with hhere | hrest
              · exact Or.inl (hrecords pull hhere)
              · exact ih (some next) after pull hrest

end Pages

/-- A stream whose pulls yield records or faults of pages, and whose cursor takes every record. -/
structure DataStream.Paged (s : DataStream Network) : Prop where
  pulls : ∀ state n, ∀ pull ∈ (s.read state n).pulls,
    (∃ r, pull.item = .record r) ∨ ∃ f, pull.item = .fault f ∧ f.OfPage
  folds : ∀ i, s.incremental = some i → ∀ folds state r, ∃ folded, i.fold folds state r = .ok folded

theorem StreamDefinition.stream_paged (s : StreamDefinition) (client : Client) (config : Value) :
    (s.stream client config).Paged where
  pulls _ _ := Paging.pagesFrom_pulls (fun _ _ _ => fetch_error) _ _ _
  folds i hi folds state r := by
    obtain ⟨definition, -, rfl⟩ := Option.map_eq_some_iff.mp hi
    exact ⟨_, rfl⟩

/-- All streams a definition declares, with the client and the configuration they share. -/
def ConnectorDefinition.built (d : ConnectorDefinition) (client : Client) (resolved : Value) :
    List (DataStream Network) :=
  d.streams.map (fun s => s.stream client resolved)

theorem ConnectorDefinition.exists_of_dataStreams {d : ConnectorDefinition} {config : Value}
    {streams : List (DataStream Network)} (hstreams : d.dataStreams config = .ok streams) :
    ∃ resolved client, d.resolveConfig config = .ok resolved ∧
      d.client (.ofConfig resolved) = .ok client ∧ streams = d.built client resolved := by
  obtain ⟨resolved, hresolved, hstreams⟩ := exists_of_bind_ok hstreams
  obtain ⟨client, hclient, hstreams⟩ := exists_of_bind_ok hstreams
  cases hstreams
  exact ⟨resolved, client, hresolved, hclient, rfl⟩

/-- A declared source has the streams of its definition, and does not break down. -/
theorem ConnectorDefinition.streams_eq_ok_iff {d : ConnectorDefinition} {config : Value}
    {streams : List (DataStream Network)} :
    d.source.streams config = .ok streams ↔ d.dataStreams config = .ok streams := by
  simp only [source]
  cases d.dataStreams config with
  | error f => exact ⟨nofun, nofun⟩
  | ok built =>
      constructor
      · intro hsame
        cases hsame
        rfl
      · intro hsame
        cases hsame
        rfl

theorem ConnectorDefinition.streams_ne_crash (d : ConnectorDefinition) (config : Value)
    (crash : Crash) : d.source.streams config ≠ .error (.crash crash) := by
  simp only [source]
  cases d.dataStreams config <;> exact nofun

theorem ConnectorDefinition.built_paged (d : ConnectorDefinition) (client : Client)
    (resolved : Value) : ∀ s ∈ d.built client resolved, s.Paged := by
  intro s hs
  obtain ⟨definition, -, rfl⟩ := List.mem_map.mp hs
  exact definition.stream_paged client resolved

namespace Sync.Engine

variable {e : Engine Network} {s : DataStream Network} {c : ConfiguredStream}
  {p : Progress Network} {stop : Stop} {world : Network}

/-- The reading of such a stream stops at nothing but the fault of a page. -/
theorem leg_stops (hpaged : s.Paged) (hreached : (e.leg s c p).reached = .error (stop, world)) :
    ∃ f, stop = .fault f ∧ f.OfPage ∧
      ∃ pull ∈ (readingFrom s c p).pulls, pull.item = .fault f := by
  obtain ⟨taken, rest, es, t, hpulls, htakes, hend⟩ := leg_cases e s c p
  rcases hend with ⟨-, hleg⟩ | ⟨last, halted, after, hhalts, hleg⟩
  · obtain ⟨snapshot, q, hclosing, -⟩ :=
      closingAt_cases e s.name (tracking? s c) t (readingFrom s c p).finish
    rw [hleg, hclosing] at hreached
    cases hreached
  · rw [hleg] at hreached
    cases hreached
    have hmem : ∀ pull ∈ rest, pull ∈ (readingFrom s c p).pulls := by
      intro pull hpull
      rw [hpulls]
      exact List.mem_append_right taken hpull
    cases hhalts with
    | fault f world others =>
        have hpull := hmem _ List.mem_cons_self
        refine ⟨f, rfl, ?_, _, hpull, rfl⟩
        rcases hpaged.pulls _ _ _ hpull with ⟨r, hrecord⟩ | ⟨g, hfault, hpage⟩
        · cases hrecord
        · cases hfault
          exact hpage
    | crash crash world others =>
        rcases hpaged.pulls _ _ _ (hmem _ List.mem_cons_self) with ⟨r, hrecord⟩ | ⟨g, hfault, -⟩
        · cases hrecord
        · cases hfault
    | fold world others hincremental hfold =>
        obtain ⟨folded, hok⟩ := hpaged.folds _ (tracking?_eq_some_iff.mp hincremental).2 _ _ _
        cases hok.symm.trans hfold

/-- A read of such streams does not break down. -/
theorem read_ne_crashed {config : Value} {catalog : ConfiguredCatalog} {state : Option SyncState}
    (hresolves : ∀ crash, e.source.streams config ≠ .error (.crash crash))
    (hpaged : ∀ streams, e.source.streams config = .ok streams → ∀ s ∈ streams, s.Paged)
    (crash : Crash) :
    (e.read config catalog state .unlimited world).result ≠ .crashed crash := by
  obtain ⟨-, hresult, -⟩ := (e.script config catalog state world).perform_unlimited e.secrets
  rw [read, hresult]
  cases hstreams : e.source.streams config with
  | error stop =>
      rw [e.script_of_error hstreams]
      cases stop with
      | fault f => exact nofun
      | crash c => exact absurd hstreams (hresolves c)
  | ok streams =>
      obtain ⟨done, rest, es, q, hchoices, hdone, hend⟩ :=
        exists_readsAll e streams (.initial state world) catalog.streams
      rw [e.script_of_ok hstreams, hchoices, hdone.legs_append]
      rcases hend with rfl | ⟨c, later, rfl, hlookup | ⟨s, stopped, hlookup, hreached⟩⟩
      · exact nofun
      · rw [legs_cons_of_none _ hlookup]
        exact nofun
      · obtain ⟨stop, after⟩ := stopped
        have hmem : s ∈ streams := List.mem_of_find?_eq_some hlookup
        obtain ⟨f, rfl, -⟩ := leg_stops (hpaged streams hstreams s hmem) hreached
        rw [legs_cons_of_error _ hlookup hreached]
        exact nofun

end Sync.Engine

end SourceSync
