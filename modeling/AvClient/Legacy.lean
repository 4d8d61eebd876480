import AvClient.Coercion

/-!
# The older client (`AVClient` with a `Storage`)

`av_client.ts` also holds an earlier `AVClient` class. It caches the election configuration the
backend answers in `electionConfig`, which `updateElectionConfig` fills only while it has no
entries. `authenticateWithCodes` authenticates the voter's codes with the election id and
encryption key of the cached configuration, and writes three members of the answer to the
app's `Storage`. The class's other public methods return constants and touch no field.

The configuration and the answers are JSON values as the backend connector parses them, with
nothing checking their shape: `Object.entries(null)`, `null['election']` and `null.precinctId`
throw a `TypeError`. The requests of this client go to the backend through its `Connector` and
to the `Storage`, not to the newer client's collaborators (`Call`), so the client keeps them in
a log of its own, `requests`.

`Step` says once what one call can do; the results below are derived from it.

## Main results

* `authenticateWithCodes_step` — the step lemma: what one call does to the cache and the log.
* `requests_use_one_config` — in every run from a new client the configuration requests come
  before every other request, and every authentication request carries the election id and
  encryption key of the configuration the client holds at the end.
* `config_without_election_blocks` — once a configuration with entries but without an
  `election` member, or `null`, is cached, every later call rejects with a `TypeError`, with no
  request and no write.
-/

namespace AvClient

open Json Async

/-- `Object.entries(value).length`, `none` for the `TypeError` of `null`: an entry per member of
an object, per element of an array and per code unit of a string, and none for a number or a
boolean. -/
def Json.JsonValue.entryCount? : JsonValue → Option Nat
  | .null => none
  | .bool _ | .number _ => some 0
  | .string s => some s.length
  | .array elements => some elements.length
  | .object members => some members.length

/-- Test `Object.entries(value).length === 0` of a value for which it does not throw. -/
def Json.JsonValue.hasNoEntries (v : JsonValue) : Bool := v.entryCount? == some 0

/-- A value with a member has entries. -/
theorem Json.JsonValue.hasNoEntries_of_property {v x : JsonValue} {key : JsString}
    (h : v.property key = some x) : v.hasNoEntries = false := by
  cases v with
  | object members => cases members <;> simp_all [property, hasNoEntries, entryCount?]
  | _ => simp [property] at h

/-- A value with a member is not `null`. -/
theorem Json.JsonValue.ne_null_of_property {v x : JsonValue} {key : JsString}
    (h : v.property key = some x) : v ≠ .null := by
  rintro rfl
  cases h

namespace Legacy

/-- A request of the older client: to the backend through its `Connector`, or to the app's
`Storage`. -/
inductive Request where
  /-- Request `new BackendElectionConfig(this.connector).get()`. -/
  | getElectionConfig
  /-- Request `new AuthenticateWithCodes(this.connector).authenticate(codes, electionId,
  encryptionKey)`. -/
  | authenticate (codes : List JsString) (electionId encryptionKey : Option JsonValue)
  /-- Call `this.storage.set(key, value)`. -/
  | storageSet (key : JsString) (value : Option JsonValue)

/-- The field of the older `AVClient` that its methods read and write, and the requests it has
made. -/
structure AVClient where
  electionConfig : JsonValue
  requests : List Request

/-- Constructor `new AVClient(storage, backendUrl)`: the configuration `{}`. -/
def AVClient.new : AVClient := ⟨.object [], []⟩

/-- Make a request and await its answer. -/
def request {α : Type} (r : Request) (response : Except JsString α) : Async AVClient α := do
  write fun s => { s with requests := s.requests ++ [r] }
  Async.ofExcept (response.mapError .collaborator)

@[simp] theorem request_ok {α : Type} (r : Request) (a : α) (w : World AVClient) :
    request r (.ok a) w = .ok a ⟨{ w.state with requests := w.state.requests ++ [r] }, w.calls⟩ :=
  rfl

@[simp] theorem request_error {α : Type} (r : Request) (e : JsString) (w : World AVClient) :
    (request r (.error e) : Async AVClient α) w =
      .error (.collaborator e) ⟨{ w.state with requests := w.state.requests ++ [r] }, w.calls⟩ :=
  rfl

/-- Call `this.storage.set(key, value)`, whose result is not awaited. -/
def storageSet (key : JsString) (value : Option JsonValue) : Async AVClient Unit :=
  write fun s => { s with requests := s.requests ++ [.storageSet key value] }

/-- Method `updateElectionConfig`. -/
def updateElectionConfig (response : Except JsString JsonValue) : Async AVClient Unit := do
  if (← deref (← fields).electionConfig.entryCount?) = 0 then
    let config ← request .getElectionConfig response
    write fun s => { s with electionConfig := config }

/-- Method `electionId`: `this.electionConfig['election']['id']`, a `TypeError` when the
configuration or its `election` is `undefined` or `null`. -/
def electionId : Async AVClient (Option JsonValue) := do
  let election ← readProperty (some (← fields).electionConfig) (.ofString "election")
  readProperty election (.ofString "id")

/-- Method `electionEncryptionKey`: `this.electionConfig['encryptionKey']`. -/
def electionEncryptionKey : Async AVClient (Option JsonValue) := do
  readProperty (some (← fields).electionConfig) (.ofString "encryptionKey")

/-- Method `authenticateWithCodes`, with the backend's answers to the configuration request
(read only while the cache has no entries) and to the authentication. -/
def authenticateWithCodes (codes : List JsString)
    (configResponse response : Except JsString JsonValue) : Async AVClient JsString := do
  updateElectionConfig configResponse
  let authenticationResponse ←
    request (.authenticate codes (← electionId) (← electionEncryptionKey)) response
  storageSet (.ofString "precinctId")
    (← readProperty (some authenticationResponse) (.ofString "precinctId"))
  storageSet (.ofString "keyPair")
    (← readProperty (some authenticationResponse) (.ofString "keyPair"))
  storageSet (.ofString "emptyCryptograms")
    (← readProperty (some authenticationResponse) (.ofString "emptyCryptograms"))
  pure (.ofString "Success")

/-! ## What one call does -/

/-- What the cache holds after `updateElectionConfig` and the requests it made: the cached
configuration when it has entries; otherwise the configuration the backend answered. -/
inductive Cached : JsonValue → Except JsString JsonValue → JsonValue → List Request → Prop where
  | hit {response} (c : JsonValue) : c ≠ .null → c.hasNoEntries = false →
      Cached c response c []
  | fetched {c} (c' : JsonValue) : c.hasNoEntries = true → Cached c (.ok c') c' [.getElectionConfig]

/-- The authentication request made with the election of a configuration `c`. -/
def authenticateRequest (codes : List JsString) (election c : JsonValue) : Request :=
  .authenticate codes (election.property (.ofString "id")) (c.property (.ofString "encryptionKey"))

/-- The storage writes of an authentication answer `v`. -/
def storageWrites (v : JsonValue) : List Request :=
  [.storageSet (.ofString "precinctId") (v.property (.ofString "precinctId")),
   .storageSet (.ofString "keyPair") (v.property (.ofString "keyPair")),
   .storageSet (.ofString "emptyCryptograms") (v.property (.ofString "emptyCryptograms"))]

/-- What one call of `authenticateWithCodes` does to the cache and the log: the cached
configuration is `null`; or the configuration request fails; or the configuration `c` it caches
has no `election`, or a `null` one; or it requests the authentication with the election id and
encryption key of `c`, and, when that is answered with a value other than `null`, writes the
three members of the answer to the storage. -/
inductive Step (codes : List JsString) (configResponse response : Except JsString JsonValue) :
    AVClient → AVClient → Prop where
  | entriesFailed (s : AVClient) : s.electionConfig = .null → Step codes configResponse response s s
  | fetchFailed (s : AVClient) (e : JsString) :
      s.electionConfig.hasNoEntries = true → configResponse = .error e →
      Step codes configResponse response s ⟨s.electionConfig, s.requests ++ [.getElectionConfig]⟩
  | noElection (s : AVClient) (c : JsonValue) (fetch : List Request) :
      Cached s.electionConfig configResponse c fetch →
      (∀ election, c.property (.ofString "election") = some election → election = .null) →
      Step codes configResponse response s ⟨c, s.requests ++ fetch⟩
  | authenticationFailed (s : AVClient) (c : JsonValue) (fetch : List Request)
      (election : JsonValue) :
      Cached s.electionConfig configResponse c fetch →
      c.property (.ofString "election") = some election → election ≠ .null →
      (∀ v, response = .ok v → v = .null) →
      Step codes configResponse response s
        ⟨c, s.requests ++ fetch ++ [authenticateRequest codes election c]⟩
  | authenticated (s : AVClient) (c : JsonValue) (fetch : List Request) (election v : JsonValue) :
      Cached s.electionConfig configResponse c fetch →
      c.property (.ofString "election") = some election → election ≠ .null →
      response = .ok v → v ≠ .null →
      Step codes configResponse response s
        ⟨c, s.requests ++ fetch ++ authenticateRequest codes election c :: storageWrites v⟩

/-- `updateElectionConfig` fails when the cached configuration is `null`, or when it requested
the configuration and the request failed; otherwise it leaves the cache as `Cached` says. -/
theorem updateElectionConfig_cases (configResponse : Except JsString JsonValue)
    (w : World AVClient) :
    (w.state.electionConfig = .null ∧
      updateElectionConfig configResponse w = .error .typeError w) ∨
    (∃ e, w.state.electionConfig.hasNoEntries = true ∧ configResponse = .error e ∧
      updateElectionConfig configResponse w =
        .error (.collaborator e)
          ⟨⟨w.state.electionConfig, w.state.requests ++ [.getElectionConfig]⟩, w.calls⟩) ∨
    ∃ c fetch, Cached w.state.electionConfig configResponse c fetch ∧
      updateElectionConfig configResponse w = .ok () ⟨⟨c, w.state.requests ++ fetch⟩, w.calls⟩ := by
  obtain ⟨⟨c₀, requests⟩, calls⟩ := w
  rcases hn : c₀.entryCount? with _ | n
  · have hnull : c₀ = .null := by cases c₀ <;> simp_all [JsonValue.entryCount?]
    exact .inl ⟨hnull, by simp [updateElectionConfig, hn]⟩
  have hc : c₀.hasNoEntries = (n == 0) := by simp [JsonValue.hasNoEntries, hn]
  cases n with
  | succ n =>
    refine .inr (.inr ⟨c₀, [], .hit c₀ (fun h => by simp [h, JsonValue.entryCount?] at hn) hc, ?_⟩)
    simp [updateElectionConfig, hn]
  | zero =>
    cases configResponse with
    | error e => exact .inr (.inl ⟨e, hc, rfl, by simp [updateElectionConfig, hn]⟩)
    | ok c => exact .inr (.inr ⟨c, _, .fetched c hc, by simp [updateElectionConfig, hn]⟩)

/-- Method `electionId` rejects when the configuration has no `election` or a `null` one. -/
theorem electionId_of_no_election {w : World AVClient}
    (hel : ∀ election, w.state.electionConfig.property (.ofString "election") = some election →
      election = .null) :
    electionId w = .error .typeError w := by
  by_cases hc : w.state.electionConfig = .null
  · simp [electionId, hc]
  rcases h : w.state.electionConfig.property (.ofString "election") with _ | election
  · simp [electionId, readProperty_of_ne_null hc, h]
  · simp [electionId, readProperty_of_ne_null hc, h, hel _ h]

/-- With an `election` that is not `null`, `electionId` and `electionEncryptionKey` read the id
and the key. -/
theorem electionId_of_election {w : World AVClient} {election : JsonValue}
    (hel : w.state.electionConfig.property (.ofString "election") = some election)
    (hne : election ≠ .null) :
    electionId w = .ok (election.property (.ofString "id")) w ∧
      electionEncryptionKey w =
        .ok (w.state.electionConfig.property (.ofString "encryptionKey")) w := by
  have hc := JsonValue.ne_null_of_property hel
  simp [electionId, electionEncryptionKey, readProperty_of_ne_null hc, hel,
    readProperty_of_ne_null hne]

/-- **The step lemma.** Whatever the backend answers, a call of `authenticateWithCodes` changes
the cache and the log as one of `Step`'s cases says. -/
theorem authenticateWithCodes_step (codes : List JsString)
    (configResponse response : Except JsString JsonValue) (w : World AVClient) :
    Step codes configResponse response w.state
      (settled (authenticateWithCodes codes configResponse response w)).state := by
  rcases updateElectionConfig_cases configResponse w with
    ⟨hnull, hu⟩ | ⟨e, hc, he, hu⟩ | ⟨c, fetch, hcached, hu⟩
  · simp only [authenticateWithCodes, bind_apply, hu, settled_error]
    exact .entriesFailed _ hnull
  · simp only [authenticateWithCodes, bind_apply, hu, settled_error]
    exact .fetchFailed _ e hc he
  simp only [authenticateWithCodes, bind_apply, hu]
  by_cases hno : ∀ election, c.property (.ofString "election") = some election → election = .null
  · simp only [electionId_of_no_election (w := ⟨⟨c, _⟩, _⟩) hno, settled_error]
    exact .noElection _ c fetch hcached hno
  push_neg at hno
  obtain ⟨election, hel, hne⟩ := hno
  obtain ⟨hid, hkey⟩ := electionId_of_election (w := ⟨⟨c, w.state.requests ++ fetch⟩, w.calls⟩)
    hel hne
  simp only [hid, hkey]
  by_cases hr : ∀ v, response = .ok v → v = .null
  · have hstep : Step codes configResponse response _ _ :=
      .authenticationFailed _ c fetch election hcached hel hne hr
    rcases response with e | v
    · simpa [authenticateRequest] using hstep
    · simpa [hr v rfl, authenticateRequest] using hstep
  push_neg at hr
  obtain ⟨v, rfl, hv⟩ := hr
  simpa [storageSet, readProperty_of_ne_null hv, authenticateRequest, storageWrites] using
    Step.authenticated _ c fetch election v hcached hel hne rfl hv

/-- With a cached configuration that has entries but no `election`, or that is `null`, a call
rejects with a `TypeError` before any request or write. -/
theorem authenticateWithCodes_of_no_election {w : World AVClient}
    (hne : w.state.electionConfig.hasNoEntries = false)
    (hel : w.state.electionConfig.property (.ofString "election") = none) (codes : List JsString)
    (configResponse response : Except JsString JsonValue) :
    authenticateWithCodes codes configResponse response w = .error .typeError w := by
  rcases updateElectionConfig_cases configResponse w with
    ⟨-, hu⟩ | ⟨e, hc, -⟩ | ⟨c, fetch, hcached, hu⟩
  · simp [authenticateWithCodes, hu]
  · simp [hc] at hne
  cases hcached with
  | fetched c hc => simp [hc] at hne
  | hit c _ _ =>
    simp only [authenticateWithCodes, bind_apply, hu, List.append_nil]
    rw [electionId_of_no_election (by simp [hel])]

/-! ## Runs -/

/-- A call of `authenticateWithCodes`: the codes, and the backend's answers to the configuration
request and to the authentication. -/
structure Attempt where
  codes : List JsString
  configResponse : Except JsString JsonValue
  response : Except JsString JsonValue

/-- The world after a sequence of calls of `authenticateWithCodes`, each settling before the next
starts; the other public methods return constants and touch no field. -/
def runAttempts (w : World AVClient) (attempts : List Attempt) : World AVClient :=
  attempts.foldl
    (fun w a => settled (authenticateWithCodes a.codes a.configResponse a.response w)) w

/-- A new client, before any call. -/
def initialWorld : World AVClient := ⟨AVClient.new, []⟩

/-- A property of the client that every `Step` keeps holds all along a run. -/
theorem runAttempts_invariant (P : AVClient → Prop)
    (hstep : ∀ codes configResponse response s s',
      Step codes configResponse response s s' → P s → P s')
    (w : World AVClient) (attempts : List Attempt) (h : P w.state) :
    P (runAttempts w attempts).state := by
  induction attempts generalizing w with
  | nil => exact h
  | cons a attempts ih => exact ih _ (hstep _ _ _ _ _ (authenticateWithCodes_step _ _ _ w) h)

/-- Whether a request was made with the configuration `c`: an authentication request carries the
election id and encryption key of `c`, a storage write may carry anything, and a configuration
request was not. -/
def UsesConfig (c : JsonValue) : Request → Prop
  | .getElectionConfig => False
  | .authenticate _ sentId sentKey =>
    ∃ election, c.property (.ofString "election") = some election ∧
      sentId = election.property (.ofString "id") ∧
      sentKey = c.property (.ofString "encryptionKey")
  | .storageSet .. => True

/-- The authentication request made with a configuration's election is made with it. -/
theorem usesConfig_authenticateRequest {codes : List JsString} {election c : JsonValue}
    (hel : c.property (.ofString "election") = some election) :
    UsesConfig c (authenticateRequest codes election c) :=
  ⟨election, hel, rfl, rfl⟩

/-- The log is configuration requests, then requests made with the cached configuration, which
has entries once there are any. -/
def OneConfig (s : AVClient) : Prop :=
  ∃ fetches rest, s.requests = fetches ++ rest ∧ (∀ r ∈ fetches, r = .getElectionConfig) ∧
    (∀ r ∈ rest, UsesConfig s.electionConfig r) ∧
    (rest ≠ [] → s.electionConfig.hasNoEntries = false)

/-- A configuration request made while the cache has no entries, then requests made with the
configuration `c` the client caches, keep `OneConfig`. -/
theorem OneConfig.fetch {s : AVClient} (h : OneConfig s)
    (hempty : s.electionConfig.hasNoEntries = true) (c : JsonValue) (new : List Request)
    (hnew : ∀ r ∈ new, UsesConfig c r) (hne : new ≠ [] → c.hasNoEntries = false) :
    OneConfig ⟨c, s.requests ++ [.getElectionConfig] ++ new⟩ := by
  obtain ⟨fetches, rest, hreq, hf, -, hrne⟩ := h
  have hrest : rest = [] := by
    by_contra hrest
    simp [hrne hrest] at hempty
  subst hrest
  refine ⟨fetches ++ [.getElectionConfig], new, by simp [hreq], ?_, hnew, hne⟩
  simpa only [List.mem_append, List.mem_singleton, or_imp, forall_and] using ⟨hf, fun _ => id⟩

/-- Requests made with the configuration `Cached` leaves keep `OneConfig`. -/
theorem OneConfig.cached {s : AVClient} {configResponse : Except JsString JsonValue}
    {c : JsonValue} {fetch : List Request} (h : OneConfig s)
    (hc : Cached s.electionConfig configResponse c fetch) (new : List Request)
    (hnew : ∀ r ∈ new, UsesConfig c r) (hne : new ≠ [] → c.hasNoEntries = false) :
    OneConfig ⟨c, s.requests ++ fetch ++ new⟩ := by
  cases hc with
  | hit c _ hhit =>
    obtain ⟨fetches, rest, hreq, hf, hr, -⟩ := h
    refine ⟨fetches, rest ++ new, by simp [hreq], hf, ?_, fun _ => hhit⟩
    simpa only [List.mem_append, or_imp, forall_and] using ⟨hr, hnew⟩
  | fetched c hempty => exact h.fetch hempty c new hnew hne

/-- Every call keeps `OneConfig`. -/
theorem Step.oneConfig {codes : List JsString} {configResponse response : Except JsString JsonValue}
    {s s' : AVClient} (h : Step codes configResponse response s s') (hs : OneConfig s) :
    OneConfig s' := by
  cases h with
  | entriesFailed => exact hs
  | fetchFailed e hempty _ => simpa using hs.fetch hempty s.electionConfig [] (by simp) (by simp)
  | noElection c fetch hc _ => simpa using hs.cached hc [] (by simp) (by simp)
  | authenticationFailed c fetch election hc hel _ _ =>
    exact hs.cached hc [authenticateRequest codes election c]
      (by simpa using usesConfig_authenticateRequest hel)
      (fun _ => Json.JsonValue.hasNoEntries_of_property hel)
  | authenticated c fetch election v hc hel _ _ _ =>
    refine hs.cached hc _ (List.forall_mem_cons.mpr ⟨usesConfig_authenticateRequest hel, ?_⟩)
      (fun _ => Json.JsonValue.hasNoEntries_of_property hel)
    simp [storageWrites, UsesConfig]

/-- **One configuration.** In every run of the older client from a new one, whatever the backend
answers, the configuration requests come before every other request, and every authentication
request carries the election id and encryption key of the configuration the client holds at the
end: once the client has authenticated with a configuration, it never replaces it. -/
theorem requests_use_one_config (attempts : List Attempt) :
    ∃ fetches rest, (runAttempts initialWorld attempts).state.requests = fetches ++ rest ∧
      (∀ r ∈ fetches, r = .getElectionConfig) ∧
      ∀ r ∈ rest, UsesConfig (runAttempts initialWorld attempts).state.electionConfig r := by
  obtain ⟨fetches, rest, hreq, hf, hr, -⟩ :=
    runAttempts_invariant OneConfig (fun _ _ _ _ _ h hs => h.oneConfig hs) initialWorld attempts
      ⟨[], [], rfl, by simp, by simp, by simp⟩
  exact ⟨fetches, rest, hreq, hf, hr⟩

/-- **A cached configuration without an election blocks the client.** Once the client holds a
configuration that has entries but no `election` member, `updateElectionConfig` never fetches
another: after any calls, the next call of `authenticateWithCodes` rejects with a `TypeError`,
and the client is as it was, with no request made and nothing written to the storage. -/
theorem config_without_election_blocks (w : World AVClient)
    (hne : w.state.electionConfig.hasNoEntries = false)
    (hel : w.state.electionConfig.property (.ofString "election") = none)
    (attempts : List Attempt) (a : Attempt) :
    authenticateWithCodes a.codes a.configResponse a.response (runAttempts w attempts) =
      .error .typeError w := by
  have hrun : runAttempts w attempts = w := by
    induction attempts with
    | nil => rfl
    | cons b attempts ih =>
      simpa only [runAttempts, List.foldl_cons, authenticateWithCodes_of_no_election hne hel,
        settled_error] using ih
  rw [hrun]
  exact authenticateWithCodes_of_no_election hne hel _ _ _

/-- A configuration `{"x": 1}`, which has entries but no election. -/
def configWithoutElection : JsonValue := .object [(.ofString "x", .number 1)]

/-- A client holding `{"x": 1}` rejects a call after a failed one, and stays as it was. -/
theorem configWithoutElection_blocks :
    configWithoutElection.hasNoEntries = false ∧
      configWithoutElection.property (.ofString "election") = none ∧
      authenticateWithCodes [] (.ok (.object [])) (.ok (.object []))
          (runAttempts ⟨⟨configWithoutElection, []⟩, []⟩ [⟨[], .error [], .error []⟩]) =
        .error .typeError ⟨⟨configWithoutElection, []⟩, []⟩ :=
  ⟨rfl, rfl, config_without_election_blocks ⟨⟨configWithoutElection, []⟩, []⟩ rfl rfl
    [⟨[], .error [], .error []⟩] ⟨[], .ok (.object []), .ok (.object [])⟩⟩

end Legacy

end AvClient
