import RisingIntelligence.Async.Interleaving
import RisingIntelligence.Http.FetchGuard
import RisingIntelligence.Shared.JsArray

/-!
# The article fetcher

`apps/collector/src/content-fetcher.ts`: a chain of guards around a rate limiter around the fetch of
an article, `createArticleContentFetcher`.

* The guards see the URL that the fetcher is given.  The fetch itself follows redirects, so a server
  that is asked chooses the next URL; `servers` is any such network.
* `requests_safe_iff`: any number of fetches at the same time send requests to safe URLs only,
  exactly if no server that an accepted URL leads to redirects to an unsafe one.
-/

namespace RisingIntelligence.Collector

open Async

structure ContentFetcherConfig where
  enabled : Bool
  timeoutMs : Nat
  maxContentLength : Nat
  minContentLength : Nat
  userAgent : String
  blockedDomains : List String

structure ContentFetcher.ArticleContent where
  text : String
  title : Option String
  htmlLength : Nat
  success : Bool

structure Response where
  ok : Bool
  status : Nat
  statusText : String

/-- The limiter of a domain, `fetch` with `redirect: "follow"`, and the body of a response. -/
inductive FetchCall : Type
  | wait (url : String)
  | fetch (url userAgent : String) (timeoutMs : Nat)
  | text (response : Response)

@[reducible] def FetchCall.Reply : FetchCall → Type
  | .wait _ => Unit
  | .fetch _ _ _ => Response
  | .text _ => String

abbrev fetching : Interface where
  Call := FetchCall
  Reply := FetchCall.Reply
  Error := String

abbrev FetchProgram (α : Type) : Type := Program fetching String α

abbrev ArticleContentFetcher : Type := String → FetchProgram (Option ContentFetcher.ArticleContent)

inductive FetchGuardDecision : Type
  | allowed
  | blocked (blockedMessage : String)
  deriving DecidableEq

abbrev FetchGuard : Type := String → FetchGuardDecision

/-- What the fetcher is created with; `extractContent` is the readability package. -/
structure FetcherRuntime where
  api : Js.UrlApi
  extractContent : String → String → ContentFetcher.ArticleContent

namespace ContentFetcher

def await (c : FetchCall) : FetchProgram c.Reply := Program.call (I := fetching) c

variable (runtime : FetcherRuntime) (config : ContentFetcherConfig)

def extractDomain (api : Js.UrlApi) (url : String) : Option String :=
  (api.parse url).map fun parsed => api.toLowerCase (Js.trim (api.hostname parsed))

/-- The domain itself and its parents, `parts.slice(i).join(".")`. -/
def parentDomains (domain : String) : List String :=
  (((domain.toList.splitOn '.').tails).filter (· ≠ [])).map fun parts =>
    String.ofList (['.'].intercalate parts)

def isDomainBlocked (api : Js.UrlApi) (url : String) (blockedDomains : List String) : Bool :=
  match extractDomain api url with
  | none => false
  | some domain =>
      if domain = "" then false
      else (parentDomains domain).any fun parent => parent ∈ blockedDomains

def fetchHtml (url : String) : FetchProgram String := do
  let response ← await (.fetch url config.userAgent config.timeoutMs)
  if response.ok then await (.text response)
  else Program.throw ("HTTP " ++ toString response.status ++ ": " ++ response.statusText)

/-- `ReadabilityArticleContentFetcher` -/
def readability : ArticleContentFetcher := fun url =>
  Program.tryCatch (do
    let html ← fetchHtml config url
    let content := runtime.extractContent html url
    if !content.success || Js.length content.text < config.minContentLength then pure none
    else pure (some { content with
      text := String.ofList (Js.takeUnits config.maxContentLength content.text.toList) }))
    fun (_ : String) => (pure none : FetchProgram (Option ArticleContent))

/-- `DomainRateLimitedArticleContentFetcherProxy` -/
def withDomainRateLimiter (delegate : ArticleContentFetcher) : ArticleContentFetcher := fun url => do
  await (.wait url)
  delegate url

/-- `GuardChainArticleContentFetcherProxy` -/
def withGuards (delegate : ArticleContentFetcher) : List FetchGuard → ArticleContentFetcher
  | [], url => delegate url
  | guard :: rest, url =>
      match guard url with
      | .allowed => withGuards delegate rest url
      | .blocked _ => pure none

def createUrlSafetyGuard (api : Js.UrlApi) : FetchGuard := fun url =>
  if isAllowedFetchUrl api false url then .allowed else .blocked "Skipping disallowed fetch URL"

def createBlockedDomainGuard (api : Js.UrlApi) (blockedDomains : List String) : FetchGuard :=
  fun url =>
    if !isDomainBlocked api url blockedDomains then .allowed else .blocked "Skipping blocked domain"

def createArticleContentFetcher : ArticleContentFetcher :=
  if !config.enabled then fun _ => pure none
  else withGuards (withDomainRateLimiter (readability runtime config))
    [createUrlSafetyGuard runtime.api, createBlockedDomainGuard runtime.api config.blockedDomains]

end ContentFetcher

/-! ## The network -/

/-- Every request that was sent. -/
structure FetchWorld where
  requests : List String

/-- The locations a fetch goes through when servers redirect it: each answers with one of its
redirects, at most `limit` times. -/
def Hops (redirects : String → String → Prop) (limit : Nat) (url : String) (hops : List String) :
    Prop :=
  hops.length ≤ limit ∧ (url :: hops).IsChain redirects

/-- A fetch sends a request to its URL and to each location of its redirects; whether it returns is
left open, and it may fail before it sends anything. -/
def servers (redirects : String → String → Prop) (limit : Nat) : Handler fetching FetchWorld
  | world, .fetch url _ _, reply, world' =>
      (reply.isOk = false ∧ world' = world) ∨
        ∃ hops, Hops redirects limit url hops ∧ world'.requests = world.requests ++ url :: hops
  | world, _, _, world' => world' = world

/-- What may be requested. -/
def SafeUrl (runtime : FetcherRuntime) (config : ContentFetcherConfig) (url : String) : Prop :=
  isAllowedFetchUrl runtime.api false url = true ∧
    ContentFetcher.isDomainBlocked runtime.api url config.blockedDomains = false

/-- A server that the URL leads to in fewer than `limit` redirects redirects to the location. -/
inductive Reaches (redirects : String → String → Prop) : Nat → String → String → Prop
  | once {limit : Nat} {url location : String} : redirects url location →
      Reaches redirects (limit + 1) url location
  | step {limit : Nat} {url location next : String} : redirects url next →
      Reaches redirects limit next location → Reaches redirects (limit + 1) url location

section Network

variable {redirects : String → String → Prop} {limit : Nat} {url location : String}
  {hops : List String}

theorem Hops.reaches (chain : Hops redirects limit url hops) (mem : location ∈ hops) :
    Reaches redirects limit url location := by
  induction hops generalizing url limit with
  | nil => exact absurd mem List.not_mem_nil
  | cons next rest ih =>
      obtain ⟨short, chain⟩ := chain
      rw [List.isChain_cons_cons] at chain
      rw [List.length_cons] at short
      obtain ⟨budget, rfl⟩ : ∃ budget, limit = budget + 1 := ⟨limit - 1, by omega⟩
      rcases List.mem_cons.1 mem with here | later
      · exact here ▸ .once chain.1
      · exact .step chain.1 (ih ⟨by omega, chain.2⟩ later)

theorem Reaches.exists_hops (reaches : Reaches redirects limit url location) :
    ∃ hops, Hops redirects limit url hops ∧ location ∈ hops := by
  induction reaches with
  | once redirected =>
      refine ⟨[_], ⟨?_, ?_⟩, List.mem_singleton_self _⟩
      · simp
      · simpa using redirected
  | step redirected _ ih =>
      rename_i limit url location next _
      obtain ⟨hops, ⟨short, chain⟩, mem⟩ := ih
      refine ⟨next :: hops, ⟨?_, ?_⟩, List.mem_cons_of_mem next mem⟩
      · rw [List.length_cons]
        omega
      · exact List.isChain_cons_cons.2 ⟨redirected, chain⟩

end Network

/-! ## What is requested -/

section Requests

open ContentFetcher

variable {runtime : FetcherRuntime} {config : ContentFetcherConfig}
  {redirects : String → String → Prop} {limit : Nat} {url : String}

/-- The fetch of an article is of its own URL. -/
def FetchesOnly (permitted : String → Prop) : FetchCall → Prop
  | .fetch url _ _ => permitted url
  | _ => True

theorem within_await {calls : FetchCall → Prop} {c : FetchCall} (holds : calls c) :
    (ContentFetcher.await c).Within calls fun _ => True :=
  Program.within_call holds

theorem readability_within {permitted : String → Prop} (mine : permitted url) :
    (readability runtime config url).Within (FetchesOnly permitted) fun _ => True := by
  have fetched : (fetchHtml config url).Within (FetchesOnly permitted) fun _ => True := by
    refine Program.Within.calls_bind (within_await mine) fun response => ?_
    split
    · exact within_await trivial
    · trivial
  refine Program.Within.settle (Program.Within.calls_bind fetched fun html => ?_) ?_
  · dsimp only
    split <;> trivial
  · intro outcome _
    cases outcome <;> trivial

theorem withGuards_eq {delegate : ArticleContentFetcher} {guards : List FetchGuard} :
    withGuards delegate guards url =
      if ∀ guard ∈ guards, guard url = .allowed then delegate url else pure none := by
  induction guards with
  | nil =>
      unfold withGuards
      simp
  | cons guard rest ih =>
      unfold withGuards
      cases decision : guard url with
      | allowed => simp [ih, decision]
      | blocked message => simp [decision]

/-- Only a safe URL gets through the guards. -/
theorem createArticleContentFetcher_eq [Decidable (SafeUrl runtime config url)] :
    createArticleContentFetcher runtime config url =
      if config.enabled = true ∧ SafeUrl runtime config url then
        withDomainRateLimiter (readability runtime config) url
      else pure none := by
  unfold createArticleContentFetcher
  cases enabled : config.enabled with
  | false => simp
  | true =>
      have guards : (∀ guard ∈ [createUrlSafetyGuard runtime.api,
          createBlockedDomainGuard runtime.api config.blockedDomains], guard url = .allowed) ↔
          SafeUrl runtime config url := by
        unfold SafeUrl createUrlSafetyGuard createBlockedDomainGuard
        simp
      simp only [Bool.not_true, Bool.false_eq_true, if_false, withGuards_eq, guards, true_and]

theorem createArticleContentFetcher_within :
    (createArticleContentFetcher runtime config url).Within
      (FetchesOnly fun target =>
        target = url ∧ config.enabled = true ∧ SafeUrl runtime config url) fun _ => True := by
  classical
  rw [createArticleContentFetcher_eq]
  split
  · rename_i accepted
    exact Program.Within.calls_bind (within_await trivial) fun _ =>
      readability_within ⟨rfl, accepted⟩
  · trivial

/-- Any number of fetches, one for each of the URLs. -/
def startFetches {ι : Type} (runtime : FetcherRuntime) (config : ContentFetcherConfig)
    (urls : ι → String) : Pool ι fetching String (Option ContentFetcher.ArticleContent)
      FetchWorld where
  threads i := createArticleContentFetcher runtime config (urls i)
  state := ⟨[]⟩

/-- Every request goes to a safe URL, however the fetches are interleaved. -/
def RequestsSafe {ι : Type} [DecidableEq ι] (runtime : FetcherRuntime)
    (config : ContentFetcherConfig) (redirects : String → String → Prop) (limit : Nat)
    (urls : ι → String) : Prop :=
  ∀ pool, Pool.Steps (fun _ => servers redirects limit) (startFetches runtime config urls) pool →
    ∀ request ∈ pool.state.requests, SafeUrl runtime config request

/-- No server that the URL leads to redirects to an unsafe location. -/
def RedirectsSafe (runtime : FetcherRuntime) (config : ContentFetcherConfig)
    (redirects : String → String → Prop) (limit : Nat) (url : String) : Prop :=
  ∀ location, Reaches redirects limit url location → SafeUrl runtime config location

/-- One answered fetch of an accepted URL. -/
theorem servers_safe {world world' : FetchWorld} {call : FetchCall}
    {reply : Except String call.Reply} (answered : servers redirects limit world call reply world')
    (mine : FetchesOnly (fun target => SafeUrl runtime config target ∧
      RedirectsSafe runtime config redirects limit target) call)
    (safe : ∀ request ∈ world.requests, SafeUrl runtime config request) :
    ∀ request ∈ world'.requests, SafeUrl runtime config request := by
  cases call with
  | wait target => exact answered ▸ safe
  | text response => exact answered ▸ safe
  | fetch target userAgent timeoutMs =>
      rcases answered with ⟨-, same⟩ | ⟨hops, chain, sent⟩
      · exact same ▸ safe
      · rw [sent]
        intro request mem
        rcases List.mem_append.1 mem with before | now
        · exact safe request before
        · rcases List.mem_cons.1 now with first | hop
          · exact first ▸ mine.1
          · exact mine.2 request (chain.reaches hop)

/-- A run of the fetch of an accepted URL through any redirects. -/
theorem exists_runs_of_hops (enabled : config.enabled = true)
    (accepted : SafeUrl runtime config url) {hops : List String}
    (chain : Hops redirects limit url hops) :
    ∃ outcome, (createArticleContentFetcher runtime config url).Runs (servers redirects limit) ⟨[]⟩
      outcome ⟨url :: hops⟩ := by
  classical
  rw [createArticleContentFetcher_eq, if_pos ⟨enabled, accepted⟩]
  -- the last server answers with an error
  let notFound : Response := ⟨false, 404, "Not Found"⟩
  have sent : servers redirects limit ⟨[]⟩ (.fetch url config.userAgent config.timeoutMs)
      (.ok notFound) ⟨url :: hops⟩ := .inr ⟨hops, chain, rfl⟩
  have waited : servers redirects limit ⟨[]⟩ (.wait url) (.ok ()) ⟨[]⟩ := rfl
  exact ⟨.ok none, .await waited (.await sent .done)⟩

/-- Requests go to safe URLs only, exactly if no accepted URL leads to a server that redirects to an
unsafe location. -/
theorem requests_safe_iff {ι : Type} [DecidableEq ι] {urls : ι → String} :
    RequestsSafe runtime config redirects limit urls ↔
      ∀ i, config.enabled = true → SafeUrl runtime config (urls i) →
        RedirectsSafe runtime config redirects limit (urls i) := by
  constructor
  · intro safe i enabled accepted location reaches
    obtain ⟨hops, chain, mem⟩ := reaches.exists_hops
    obtain ⟨outcome, run⟩ := exists_runs_of_hops enabled accepted chain
    exact safe _ (Pool.Steps.of_runs run) location (List.mem_cons_of_mem _ mem)
  · intro condition pool steps
    have confined : (startFetches runtime config urls).Confined
        (fun i => FetchesOnly fun target => SafeUrl runtime config target ∧
          RedirectsSafe runtime config redirects limit target)
        fun world => ∀ request ∈ world.requests, SafeUrl runtime config request := by
      refine ⟨fun i => ?_, fun request mem => absurd mem List.not_mem_nil⟩
      refine createArticleContentFetcher_within.mono ?_ fun _ finished => finished
      intro call mine
      cases call with
      | wait target => trivial
      | text response => trivial
      | fetch target userAgent timeoutMs =>
          obtain ⟨same, enabled, accepted⟩ := mine
          exact same ▸ ⟨accepted, condition i enabled accepted⟩
    exact (Pool.Steps.confined steps confined fun i call mine world reply world' safe answered =>
      servers_safe answered mine safe).2

end Requests

/-! ### A redirect to the own host -/

def sampleRuntime : FetcherRuntime where
  api := Js.plainUrls
  extractContent html _ := ⟨"", none, Js.length html, false⟩

def sampleConfig : ContentFetcherConfig where
  enabled := true
  timeoutMs := 10000
  maxContentLength := 50000
  minContentLength := 100
  userAgent := "RisingIntelligence"
  blockedDomains := []

/-- The one server there is redirects to `localhost`. -/
def toLocalhost (url location : String) : Prop :=
  url = "https://news.example/a" ∧ location = "http://localhost/admin"

theorem redirect_reaches_localhost :
    ¬ RequestsSafe sampleRuntime sampleConfig toLocalhost 20
      fun _ : Unit => "https://news.example/a" := by
  intro safe
  have accepted : SafeUrl sampleRuntime sampleConfig "https://news.example/a" := by
    unfold SafeUrl
    decide
  have chain : Hops toLocalhost 20 "https://news.example/a" ["http://localhost/admin"] :=
    ⟨by decide, by simp [toLocalhost]⟩
  obtain ⟨outcome, run⟩ := exists_runs_of_hops rfl accepted chain
  have requested := safe _ (Pool.Steps.of_runs (i := ()) run) "http://localhost/admin" (by simp)
  have refused : isAllowedFetchUrl sampleRuntime.api false "http://localhost/admin" = false := by
    decide
  rw [requested.1] at refused
  cases refused

end RisingIntelligence.Collector
