import AvClient.Session

/-!
# Runs of a voter session

A run is a sequence of calls of `AVClient`'s public methods on one client, each settling
before the next starts (the spec's single-threaded use), from a new client. Every call carries
the answers its collaborators give during the call, so a statement over all runs quantifies
over all collaborator behaviour as well.

`Effect` says once what one call can do to the session's fields: nothing, or the assignment its
method makes under the condition the method checks first. Every invariant below is derived from
it (`Op.run_effect`) and from the failure frame (`Op.run_error`), by induction over the run.

## Main results

* `Op.run_effect` — every call's effect on the fields is one of `Effect`'s.
* `Op.run_error` — a call that rejects leaves every field as it was, except that a
  `registerVoter` past its guard keeps the key pair it assigned.
* `runOps_lastChange` — a field that differs at the end of a run was last changed by one call,
  and kept its value since.
* `electionConfig_valid` — a loaded configuration always passed `validateElectionConfig`.
* `validateAccessCode_needs_requestAccessCode`, `registerVoter_needs_validateAccessCode` — the
  guards of these two methods hold only after the call they stand for resolved.
* `voteEncryptions_last_construction` — the stored envelopes are those the last resolved
  `constructBallotCryptograms` built, and no other call, in any state, changes them:
  registrations included.
* `runOps_lastAnswer` — a field that only a resolved call changes, to the answer it carries,
  holds the answer of the last call that stored one.
* `registrationFields_last_answer` — the voter identifier and the empty cryptograms are those of
  one answer, the last one stored.
-/

namespace AvClient

open Json Async SubmitVotes AVClient

/-- What a public method resolves with. -/
inductive Reply where
  | undefined
  | string (s : JsString)
  | electionConfig (c : ElectionConfig)
  | receipt (r : VoteReceipt)
  deriving DecidableEq

/-- A call of a public method of `AVClient`, with its arguments and the answers its
collaborators give during the call. -/
inductive Op where
  | initializeClient (electionConfig : Option ElectionConfig)
      (response : Except JsString (Option ElectionConfig))
  | getElectionConfig
  | getAuthorizationMethod
  | authenticateWithCodes (codes : List JsString)
      (response : Except JsString AuthenticationResponse)
  | requestAccessCode (opaqueVoterId email : JsString)
      (response : Except JsString (Option SessionData))
  | validateAccessCode (code : JsString) (response : Except JsString (Option JsString))
  | registerVoter (keyPair : KeyPair)
      (authorization : Except JsString (Option PublicKeyAuthorization))
      (registration : Except JsString RegisterVoterResponse)
  | constructBallotCryptograms (encryptVotes : EncryptVotes) (cvr : ContestMap JsString)
  | generateTestCode (testCode : JsString)
  | spoilBallotCryptograms
  | submitBallotCryptograms (affidavit : JsString)
  | purgeData

/-- The call, made on the session. -/
def Op.run : Op → Async AVClient Reply
  | .initializeClient electionConfig response =>
    (fun _ => .undefined) <$> AVClient.initializeClient electionConfig response
  | .getElectionConfig => .electionConfig <$> AVClient.getElectionConfig
  | .getAuthorizationMethod => .string <$> AVClient.getAuthorizationMethod
  | .authenticateWithCodes codes response =>
    (fun _ => .undefined) <$> AVClient.authenticateWithCodes codes response
  | .requestAccessCode opaqueVoterId email response =>
    (fun _ => .undefined) <$> AVClient.requestAccessCode opaqueVoterId email response
  | .validateAccessCode code response =>
    (fun _ => .undefined) <$> AVClient.validateAccessCode code response
  | .registerVoter keyPair authorization registration =>
    (fun _ => .undefined) <$> AVClient.registerVoter keyPair authorization registration
  | .constructBallotCryptograms encryptVotes cvr =>
    .string <$> AVClient.constructBallotCryptograms encryptVotes cvr
  | .generateTestCode testCode => (fun _ => .undefined) <$> AVClient.generateTestCode testCode
  | .spoilBallotCryptograms => (fun _ => .undefined) <$> AVClient.spoilBallotCryptograms
  | .submitBallotCryptograms affidavit => .receipt <$> AVClient.submitBallotCryptograms affidavit
  | .purgeData => (fun _ => .undefined) <$> AVClient.purgeData

/-- The world after a sequence of calls, each settling before the next starts. -/
def runOps (w : World AVClient) (ops : List Op) : World AVClient :=
  ops.foldl (fun w op => settled (op.run w)) w

/-- A new client, `new AVClient(bulletinBoardURL)`, before any call. -/
def initialWorld : World AVClient := ⟨AVClient.new, []⟩

/-- How a call settled. -/
inductive Outcome where
  | resolved (reply : Reply)
  | rejected (e : Rejection)
  deriving DecidableEq

/-- The outcome of a settled call. -/
def outcome : EStateM.Result Rejection (World AVClient) Reply → Outcome
  | .ok reply _ => .resolved reply
  | .error e _ => .rejected e

@[simp] theorem runOps_nil (w : World AVClient) : runOps w [] = w := rfl

theorem runOps_append (w : World AVClient) (ops ops' : List Op) :
    runOps w (ops ++ ops') = runOps (runOps w ops) ops' :=
  List.foldl_append _ _ _ _

@[simp] theorem runOps_snoc (w : World AVClient) (ops : List Op) (op : Op) :
    runOps w (ops ++ [op]) = settled (op.run (runOps w ops)) := by
  rw [runOps_append]; rfl

/-! ## What one call does -/

/-- What one call can do to the session's fields: nothing, or the assignment its method makes,
under the condition the method checks before making it. -/
inductive Effect : Op → AVClient → AVClient → Prop where
  | unchanged (op : Op) (s : AVClient) : Effect op s s
  | loadConfig {electionConfig response} (s : AVClient) (c : ElectionConfig) :
      validateElectionConfig c = .ok () →
      Effect (.initializeClient electionConfig response) s { s with electionConfig := some c }
  | authenticate {codes response} (s : AVClient) (r : AuthenticationResponse) :
      response = .ok r →
      Effect (.authenticateWithCodes codes response) s { s with
        voterIdentifier := r.voterIdentifier, keyPair := r.keyPair,
        emptyCryptograms := r.emptyCryptograms }
  | requestAccess {opaqueVoterId email response} (s : AVClient) (url : Option JsString)
      (d : SessionData) :
      serviceUrlOf s.electionConfig Services.voter_authorizer = .ok url →
      response = .ok (some d) →
      Effect (.requestAccessCode opaqueVoterId email response) s { s with
        authorizationSessionId := d.sessionId, email := some email }
  | validateAccess {code response} (s : AVClient) (url t : Option JsString) :
      truthy s.email = true → serviceUrlOf s.electionConfig Services.otp_provider = .ok url →
      response = .ok t →
      Effect (.validateAccessCode code response) s { s with identityConfirmationToken := t }
  | assignKeyPair {keyPair authorization registration} (s : AVClient) :
      truthy s.identityConfirmationToken = true →
      Effect (.registerVoter keyPair authorization registration) s
        { s with keyPair := some keyPair }
  | register {keyPair authorization registration} (s : AVClient) (r : RegisterVoterResponse) :
      truthy s.identityConfirmationToken = true → registration = .ok r →
      Effect (.registerVoter keyPair authorization registration) s { s with
        keyPair := some keyPair, voterIdentifier := r.voterIdentifier,
        emptyCryptograms := r.emptyCryptograms, contestIds := r.contestIds }
  | construct {encryptVotes cvr} (s : AVClient) (c : ElectionConfig)
      (E : ContestMap EncryptedVote) :
      constructionGuard s = true → s.electionConfig = some c →
      validateCvr cvr c.ballots = .okay →
      encryptBallot encryptVotes cvr s.emptyCryptograms c = .ok E →
      Effect (.constructBallotCryptograms encryptVotes cvr) s { s with voteEncryptions := some E }
  | testCode {testCode} (s : AVClient) :
      Effect (.generateTestCode testCode) s { s with testCode := some testCode }

section Step

variable {w w' : World AVClient} {e : Rejection}

/-- **The step lemma.** Whatever its collaborators answer, a call changes the session's fields
as one of `Effect`'s cases says. -/
theorem Op.run_effect (op : Op) (w : World AVClient) :
    Effect op w.state (settled (op.run w)).state := by
  cases op with
  | initializeClient ec response =>
    rcases h : AVClient.initializeClient ec response w with u | e <;>
      simp only [Op.run, map_apply, h, settled]
    · obtain ⟨c, hc, hs⟩ := initializeClient_ok h
      exact hs ▸ .loadConfig _ c hc
    · exact initializeClient_error h ▸ .unchanged _ _
  | getElectionConfig =>
    rcases hc : w.state.electionConfig <;> simp [Op.run, loadedConfig, hc] <;> exact .unchanged _ _
  | getAuthorizationMethod =>
    rw [Op.run, settled_map, getAuthorizationMethod_settled]
    exact .unchanged _ _
  | authenticateWithCodes codes response =>
    rcases h : AVClient.authenticateWithCodes codes response w with u | e <;>
      simp only [Op.run, map_apply, h, settled]
    · obtain ⟨r, hr, hs⟩ := authenticateWithCodes_ok h
      exact hs ▸ .authenticate _ r hr
    · exact authenticateWithCodes_error h ▸ .unchanged _ _
  | requestAccessCode opaqueVoterId email response =>
    rcases h : AVClient.requestAccessCode opaqueVoterId email response w with u | e <;>
      simp only [Op.run, map_apply, h, settled]
    · obtain ⟨url, d, hu, hd, rfl⟩ := requestAccessCode_ok h
      exact .requestAccess _ url d hu hd
    · exact requestAccessCode_error h ▸ .unchanged _ _
  | validateAccessCode code response =>
    rcases h : AVClient.validateAccessCode code response w with u | e <;>
      simp only [Op.run, map_apply, h, settled]
    · obtain ⟨_, url, t, he, hu, ht, rfl⟩ := validateAccessCode_ok h
      exact .validateAccess _ url t (truthyValue_eq_some.mp he).2 hu ht
    · exact validateAccessCode_error h ▸ .unchanged _ _
  | registerVoter keyPair authorization registration =>
    rcases h : AVClient.registerVoter keyPair authorization registration w with u | e <;>
      simp only [Op.run, map_apply, h, settled]
    · obtain ⟨ht, r, hr, hs⟩ := registerVoter_ok h
      exact hs ▸ .register _ r ht hr
    · rcases registerVoter_error h with hs | ⟨ht, hs⟩
      · exact hs ▸ .unchanged _ _
      · exact hs ▸ .assignKeyPair _ ht
  | constructBallotCryptograms encryptVotes cvr =>
    rcases h : AVClient.constructBallotCryptograms encryptVotes cvr w with code | e <;>
      simp only [Op.run, map_apply, h, settled]
    · obtain ⟨hg, c, E, hc, hv, hE, -, rfl⟩ := constructBallotCryptograms_ok_iff.mp h
      exact .construct _ c E hg hc hv hE
    · exact constructBallotCryptograms_error h ▸ .unchanged _ _
  | generateTestCode testCode => exact .testCode _
  | spoilBallotCryptograms => exact .unchanged _ _
  | submitBallotCryptograms affidavit =>
    simp only [Op.run, map_apply, submitBallotCryptograms_error, settled]
    exact .unchanged _ _
  | purgeData => exact .unchanged _ _

/-- **The failure frame.** A call that rejects leaves every field as it was, except that a
`AVClient.registerVoter` that got past its guard keeps the key pair it assigned before its first
`await`. -/
theorem Op.run_error {op : Op} (h : op.run w = .error e w') :
    w'.state = w.state ∨ ∃ keyPair authorization registration,
      op = .registerVoter keyPair authorization registration ∧
      truthy w.state.identityConfirmationToken = true ∧
      w'.state = { w.state with keyPair := some keyPair } := by
  cases op <;> simp only [Op.run, map_eq_error] at h
  case initializeClient => exact .inl (initializeClient_error h)
  case getElectionConfig =>
    rcases hc : w.state.electionConfig <;> simp [loadedConfig, hc] at h
    exact .inl (h.2 ▸ rfl)
  case getAuthorizationMethod =>
    have hs := getAuthorizationMethod_settled w
    rw [h] at hs
    exact .inl (congrArg World.state hs)
  case authenticateWithCodes => exact .inl (authenticateWithCodes_error h)
  case requestAccessCode => exact .inl (requestAccessCode_error h)
  case validateAccessCode => exact .inl (validateAccessCode_error h)
  case registerVoter keyPair authorization registration =>
    rcases registerVoter_error h with hs | ⟨ht, hs⟩
    · exact .inl hs
    · exact .inr ⟨keyPair, authorization, registration, rfl, ht, hs⟩
  case constructBallotCryptograms =>
    exact .inl (congrArg World.state (constructBallotCryptograms_error h))
  case generateTestCode => simp [AVClient.generateTestCode] at h
  case spoilBallotCryptograms =>
    simp [AVClient.spoilBallotCryptograms] at h
    exact .inl (h.2 ▸ rfl)
  case submitBallotCryptograms =>
    simp [submitBallotCryptograms_error] at h
    exact .inl (h.2 ▸ rfl)
  case purgeData => simp [AVClient.purgeData] at h

/-! ### A registered session

The runs below start from a new client given a configuration with two contests, `1` and `2`,
and go through the OTP flow of the tests (`requestAccessCode`, `validateAccessCode`,
`registerVoter`) with collaborators that answer every request. -/

/-- A service with a URL, an election context uuid and a public key. -/
def sampleService : Service :=
  ⟨some (.ofString "u"), some (.ofString "c"), some (.ofString "k")⟩

/-- A configuration with both services and the tests' two contests: `1` with option `option1`,
`2` with option `optiona`. -/
def twoContestConfig : ElectionConfig where
  encryptionKey := .ofString "e"
  signingPublicKey := .ofString "s"
  election := ⟨1⟩
  ballots := [⟨1, 1, [.ofString "option1"]⟩, ⟨2, 1, [.ofString "optiona"]⟩]
  affidavit := none
  services := some ⟨some sampleService, some sampleService⟩
  authorizationMode := some (.ofString "otps")

/-- The coordinator's answer to `requestPublicKeyAuthorization`. -/
def sampleAuthorization : Except JsString (Option PublicKeyAuthorization) :=
  .ok (some ⟨some (.ofString "rt"), some (.ofString "pkt")⟩)

/-- The OTP flow from a new client to a registration with key pair `keyPair` that the board
answers with `registration`. -/
def otpRegistration (keyPair : KeyPair) (registration : RegisterVoterResponse) : List Op :=
  [.initializeClient (some twoContestConfig) (.ok none),
   .requestAccessCode (.ofString "voter123") (.ofString "voter@foo.bar")
     (.ok (some ⟨some (.ofString "sid")⟩)),
   .validateAccessCode (.ofString "1234") (.ok (some (.ofString "token"))),
   .registerVoter keyPair sampleAuthorization (.ok registration)]

/-- Two key pairs `randomKeyPair()` may return. -/
def keyA : KeyPair := ⟨.ofString "a", .ofString "A"⟩

/-- Two key pairs `randomKeyPair()` may return. -/
def keyB : KeyPair := ⟨.ofString "b", .ofString "B"⟩

/-- A registration of voter `v`, eligible for contest `1` only, with an empty cryptogram `x` for
contest `1`. -/
def contestOneRegistration : RegisterVoterResponse :=
  ⟨some (.ofString "v"),
    some ⟨[(.ofString "1", ⟨.ofString "x"⟩)], List.nodup_singleton _⟩,
    some [1]⟩

/-- An encryption whose envelope holds the empty cryptogram as its cryptogram and the selection
as its proof, with a constant tracking code. -/
def plainEncryption : EncryptVotes where
  encryptContest selection emptyCryptogram _ _ := ⟨emptyCryptogram.getD [], selection⟩
  fingerprint _ := .ofString "tc"

/-- The CVR `{ '1': 'option1' }`. -/
def cvrOne : ContestMap JsString :=
  ⟨[(.ofString "1", .ofString "option1")], List.nodup_singleton _⟩

/-- The CVR `{ '2': 'optiona' }`. -/
def cvrTwo : ContestMap JsString :=
  ⟨[(.ofString "2", .ofString "optiona")], List.nodup_singleton _⟩

/-- The envelopes `plainEncryption` makes of `cvrOne` with the empty cryptogram `x`. -/
def envelopesOne : ContestMap EncryptedVote :=
  ⟨[(.ofString "1", ⟨.ofString "x", .ofString "option1"⟩)], List.nodup_singleton _⟩

/-- The session after the OTP registration of voter `v` with key pair `a`. -/
def registeredWorld : World AVClient :=
  runOps initialWorld (otpRegistration keyA contestOneRegistration)

/-- A second `registerVoter`, with key pair `b`, whose authorization request fails. -/
def failedReregistration : Op :=
  .registerVoter keyB (.error (.ofString "network")) (.ok contestOneRegistration)

/-- **A failed re-registration replaces the key pair.** After voter `v` registered key pair `a`,
a second `registerVoter` whose authorization request fails rejects with the network error, yet
leaves the session with key pair `b`: the board registered `a` for `v`, and `b` was only sent
to the coordinator. -/
theorem registerVoter_failure_replaces_keyPair :
    outcome (failedReregistration.run registeredWorld) =
        .rejected (.collaborator (.ofString "network")) ∧
      registeredWorld.state.keyPair = some keyA ∧
      (settled (failedReregistration.run registeredWorld)).state.keyPair = some keyB ∧
      (settled (failedReregistration.run registeredWorld)).state.voterIdentifier =
        registeredWorld.state.voterIdentifier ∧
      registeredWorld.calls.getLast? = some (.registerVoter keyA (.ofString "e")
        (some (.ofString "rt")) (some (.ofString "pkt"))) ∧
      (settled (failedReregistration.run registeredWorld)).calls = registeredWorld.calls ++
        [.requestPublicKeyAuthorization (some (.ofString "u")) (some (.ofString "sid"))
          (.ofString "token") (.ofString "B")] := by
  decide

/-- The call made at `w` resolves. -/
def Resolves (op : Op) (w : World AVClient) : Prop := ∃ reply w', op.run w = .ok reply w'

/-- A field the key pair does not affect changes only in a call that resolves. -/
theorem resolves_of_changed {β : Type} {f : AVClient → β} {op : Op}
    (h : f (settled (op.run w)).state ≠ f w.state)
    (hf : ∀ s kp, f { s with keyPair := kp } = f s) : Resolves op w := by
  cases hr : op.run w with
  | ok reply w' => exact ⟨reply, w', hr⟩
  | error e w' =>
    rw [hr, settled] at h
    rcases Op.run_error hr with hs | ⟨kp, _, _, _, _, hs⟩
    · exact (h (by rw [hs])).elim
    · exact (h (by rw [hs, hf])).elim

theorem Effect.email_changed {op : Op} {s s' : AVClient} (h : Effect op s s')
    (hne : s'.email ≠ s.email) :
    ∃ opaqueVoterId email response, op = .requestAccessCode opaqueVoterId email response := by
  cases h <;> first | exact absurd rfl hne | exact ⟨_, _, _, rfl⟩

theorem Effect.identityConfirmationToken_changed {op : Op} {s s' : AVClient} (h : Effect op s s')
    (hne : s'.identityConfirmationToken ≠ s.identityConfirmationToken) :
    ∃ code response, op = .validateAccessCode code response := by
  cases h <;> first | exact absurd rfl hne | exact ⟨_, _, rfl⟩

theorem Effect.voteEncryptions_changed {op : Op} {s s' : AVClient} (h : Effect op s s')
    (hne : s'.voteEncryptions ≠ s.voteEncryptions) :
    ∃ encryptVotes cvr c E, op = .constructBallotCryptograms encryptVotes cvr ∧
      s.electionConfig = some c ∧ encryptBallot encryptVotes cvr s.emptyCryptograms c = .ok E ∧
      s'.voteEncryptions = some E := by
  cases h with
  | construct s c E _ hc _ hE => exact ⟨_, _, c, E, rfl, hc, hE, rfl⟩
  | _ => exact absurd rfl hne

/-- Every configuration the session holds passed `validateElectionConfig`. -/
def ConfigValid (s : AVClient) : Prop :=
  ∀ c, s.electionConfig = some c → validateElectionConfig c = .ok ()

/-- Only a configuration that passed validation is ever loaded. -/
theorem Effect.configValid {op : Op} {s s' : AVClient} (h : Effect op s s') (hs : ConfigValid s) :
    ConfigValid s' := by
  cases h <;> first | exact hs | (intro c' h'; cases h'; assumption)

/-- A property of the fields that every `Effect` keeps holds all along a run. -/
theorem runOps_invariant (P : AVClient → Prop)
    (hstep : ∀ op s s', Effect op s s' → P s → P s')
    (w : World AVClient) (ops : List Op) (h : P w.state) : P (runOps w ops).state := by
  induction ops generalizing w with
  | nil => exact h
  | cons op ops ih => exact ih _ (hstep _ _ _ (Op.run_effect op w) h)

end Step

/-! ## Runs -/

/-- **The last change of a field.** A field that differs at the end of a run from its value at
the start was last changed by one call of the run, and has kept, after every later call, the
value that call gave it. -/
theorem runOps_lastChange {β : Type} (f : AVClient → β) (w : World AVClient) (ops : List Op)
    (h : f (runOps w ops).state ≠ f w.state) :
    ∃ pre op post, ops = pre ++ op :: post ∧
      f (settled (op.run (runOps w pre))).state ≠ f (runOps w pre).state ∧
      ∀ k ≤ post.length,
        f (runOps w (pre ++ op :: post.take k)).state = f (runOps w ops).state := by
  induction ops using List.reverseRecOn with
  | nil => exact absurd rfl h
  | append_singleton ops op ih =>
    by_cases hop : f (settled (op.run (runOps w ops))).state = f (runOps w ops).state
    · rw [runOps_snoc, hop] at h
      obtain ⟨pre, op', post, rfl, hchange, hkeep⟩ := ih h
      refine ⟨pre, op', post ++ [op], by simp, hchange, fun k hk => ?_⟩
      rcases Nat.lt_or_ge k (post.length + 1) with hlt | hge
      · rw [List.take_append_of_le_length (by omega), hkeep k (by omega), runOps_snoc, hop]
      · have hk' : k = post.length + 1 := by simp at hk; omega
        subst hk'
        rw [List.take_of_length_le (by simp)]
        simp
    · exact ⟨ops, op, [], rfl, hop, fun k _ => by rw [List.take_nil]⟩

/-- **The loaded configuration is valid.** In every run from a new client, a loaded election
configuration passed `validateElectionConfig`: both services have a non-empty URL, election
context uuid and public key. -/
theorem electionConfig_valid (ops : List Op) {c : ElectionConfig}
    (h : (runOps initialWorld ops).state.electionConfig = some c) :
    validateElectionConfig c = .ok () :=
  runOps_invariant ConfigValid (fun _ _ _ heff => heff.configValid) initialWorld ops
    (fun c h => by cases h) c h

/-- **`validateAccessCode` needs `requestAccessCode`.** In a run from a new client in which no
`requestAccessCode` call resolved, `validateAccessCode` throws its `InvalidStateError`, before
any request and without a write. -/
theorem validateAccessCode_needs_requestAccessCode (ops : List Op)
    (hnone : ∀ pre opaqueVoterId email response post,
      ops = pre ++ .requestAccessCode opaqueVoterId email response :: post →
      ¬ Resolves (.requestAccessCode opaqueVoterId email response) (runOps initialWorld pre))
    (code : JsString) (response : Except JsString (Option JsString)) :
    AVClient.validateAccessCode code response (runOps initialWorld ops) =
      .error (.invalidState accessCodeNotRequested) (runOps initialWorld ops) := by
  apply validateAccessCode_of_not_requested
  by_contra htruthy
  have hne : (runOps initialWorld ops).state.email ≠ initialWorld.state.email := by
    intro h
    rw [h] at htruthy
    exact htruthy rfl
  obtain ⟨pre, op, post, rfl, hchange, -⟩ :=
    runOps_lastChange AVClient.email initialWorld ops hne
  obtain ⟨opaqueVoterId, email, response, rfl⟩ := (Op.run_effect op _).email_changed hchange
  exact hnone pre _ _ _ post rfl (resolves_of_changed hchange (fun _ _ => rfl))

/-- **`registerVoter` needs `validateAccessCode`.** In a run from a new client in which no
`validateAccessCode` call resolved, `registerVoter` throws its `InvalidStateError` before it
assigns the key pair or makes a request. -/
theorem registerVoter_needs_validateAccessCode (ops : List Op)
    (hnone : ∀ pre code response post, ops = pre ++ .validateAccessCode code response :: post →
      ¬ Resolves (.validateAccessCode code response) (runOps initialWorld pre))
    (keyPair : KeyPair) (authorization : Except JsString (Option PublicKeyAuthorization))
    (registration : Except JsString RegisterVoterResponse) :
    AVClient.registerVoter keyPair authorization registration (runOps initialWorld ops) =
      .error (.invalidState identityNotConfirmed) (runOps initialWorld ops) := by
  apply registerVoter_of_not_validated
  by_contra htruthy
  have hne : (runOps initialWorld ops).state.identityConfirmationToken ≠
      initialWorld.state.identityConfirmationToken := by
    intro h
    rw [h] at htruthy
    exact htruthy rfl
  obtain ⟨pre, op, post, rfl, hchange, -⟩ :=
    runOps_lastChange AVClient.identityConfirmationToken initialWorld ops hne
  obtain ⟨code, response, rfl⟩ := (Op.run_effect op _).identityConfirmationToken_changed hchange
  exact hnone pre _ _ post rfl (resolves_of_changed hchange (fun _ _ => rfl))

/-- The configuration the OTP registration loads passed `validateElectionConfig`. -/
theorem otpRegistration_config_valid :
    (runOps initialWorld (otpRegistration keyA contestOneRegistration)).state.electionConfig =
      some twoContestConfig ∧ validateElectionConfig twoContestConfig = .ok () :=
  ⟨by decide, electionConfig_valid (otpRegistration keyA contestOneRegistration) (by decide)⟩

/-- The run `initialize`, then a `requestAccessCode` the OTP provider rejects. -/
def rejectedRequestRun : List Op :=
  [.initializeClient (some twoContestConfig) (.ok none),
    .requestAccessCode (.ofString "v") (.ofString "e") (.error (.ofString "unavailable"))]

/-- After a rejected `requestAccessCode`, `validateAccessCode` throws. -/
theorem validateAccessCode_without_request :
    (∀ pre opaqueVoterId email response post,
      rejectedRequestRun = pre ++ .requestAccessCode opaqueVoterId email response :: post →
      ¬ Resolves (.requestAccessCode opaqueVoterId email response) (runOps initialWorld pre)) ∧
    AVClient.validateAccessCode (.ofString "1234") (.ok none)
        (runOps initialWorld rejectedRequestRun) =
      .error (.invalidState accessCodeNotRequested) (runOps initialWorld rejectedRequestRun) := by
  have hnone : ∀ pre opaqueVoterId email response post,
      rejectedRequestRun = pre ++ .requestAccessCode opaqueVoterId email response :: post →
      ¬ Resolves (.requestAccessCode opaqueVoterId email response) (runOps initialWorld pre) := by
    intro pre opaqueVoterId email response post h
    rcases pre with _ | ⟨_, _ | ⟨_, _⟩⟩ <;> simp [rejectedRequestRun] at h
    obtain ⟨rfl, ⟨rfl, rfl, rfl⟩, -⟩ := h
    rintro ⟨_, _, hrun⟩
    cases hrun
  exact ⟨hnone, validateAccessCode_needs_requestAccessCode _ hnone _ _⟩

/-- The first two calls of the OTP flow make no `validateAccessCode`, so `registerVoter` throws. -/
theorem registerVoter_after_requestAccessCode :
    (∀ pre code response post, (otpRegistration keyA contestOneRegistration).take 2 =
        pre ++ .validateAccessCode code response :: post →
      ¬ Resolves (.validateAccessCode code response) (runOps initialWorld pre)) ∧
    AVClient.registerVoter keyA sampleAuthorization (.ok contestOneRegistration)
        (runOps initialWorld ((otpRegistration keyA contestOneRegistration).take 2)) =
      .error (.invalidState identityNotConfirmed)
        (runOps initialWorld ((otpRegistration keyA contestOneRegistration).take 2)) := by
  have hnone : ∀ pre code response post, (otpRegistration keyA contestOneRegistration).take 2 =
        pre ++ .validateAccessCode code response :: post →
      ¬ Resolves (.validateAccessCode code response) (runOps initialWorld pre) := by
    intro pre _ _ post h
    rcases pre with _ | ⟨_, _ | ⟨_, _ | _⟩⟩ <;> simp [otpRegistration] at h
  exact ⟨hnone, registerVoter_needs_validateAccessCode _ hnone _ _ _⟩

/-- The session after `initialize` and an `authenticateWithCodes` that identifies voter `v`
with key pair `a` and the empty cryptogram `x` for contest `1`; it sets no contest ids. -/
def authenticatedWorld : World AVClient :=
  runOps initialWorld [.initializeClient (some twoContestConfig) (.ok none),
    .authenticateWithCodes [.ofString "code"]
      (.ok ⟨some (.ofString "v"), some keyA, contestOneRegistration.emptyCryptograms⟩)]

/-- **The guards of construction and submission let early calls through.** After
`authenticateWithCodes`, which sets no contest ids, `constructBallotCryptograms` resolves; after
a registration with no ballot constructed, `submitBallotCryptograms` gets past its guard and
rejects with a `TypeError`, not with an `InvalidStateError`. -/
theorem construction_and_submission_guards_let_through :
    authenticatedWorld.state.contestIds = none ∧
      outcome ((Op.constructBallotCryptograms plainEncryption cvrOne).run authenticatedWorld) =
        .resolved (.string (.ofString "tc")) ∧
      registeredWorld.state.voteEncryptions = none ∧
      outcome ((Op.submitBallotCryptograms (.ofString "affidavit bytes")).run registeredWorld) =
        .rejected .typeError := by
  decide

/-- No call other than `constructBallotCryptograms` changes the envelopes, in any state. -/
theorem Op.run_voteEncryptions {op : Op}
    (hop : ∀ encryptVotes cvr, op ≠ .constructBallotCryptograms encryptVotes cvr)
    (w : World AVClient) :
    (settled (op.run w)).state.voteEncryptions = w.state.voteEncryptions := by
  by_contra hne
  obtain ⟨encryptVotes, cvr, -, -, rfl, -⟩ := (Op.run_effect op w).voteEncryptions_changed hne
  exact hop encryptVotes cvr rfl

/-- **Where the envelopes come from.** In every run from a new client that leaves envelopes
`E` in `voteEncryptions`, `E` is what a resolved `constructBallotCryptograms` built from the
empty cryptograms and the configuration of the state it was called in, and every state after
that call holds `E`, whatever calls followed it. No call other than
`constructBallotCryptograms`, in any state and whatever its collaborators answer, changes
`voteEncryptions`: `registerVoter` and `authenticateWithCodes` do not clear it. -/
theorem voteEncryptions_last_construction (ops : List Op) {E : ContestMap EncryptedVote}
    (h : (runOps initialWorld ops).state.voteEncryptions = some E) :
    (∃ pre encryptVotes cvr post c,
      ops = pre ++ .constructBallotCryptograms encryptVotes cvr :: post ∧
      Resolves (.constructBallotCryptograms encryptVotes cvr) (runOps initialWorld pre) ∧
      (runOps initialWorld pre).state.electionConfig = some c ∧
      encryptBallot encryptVotes cvr (runOps initialWorld pre).state.emptyCryptograms c = .ok E ∧
      ∀ k ≤ post.length, (runOps initialWorld
        (pre ++ .constructBallotCryptograms encryptVotes cvr :: post.take k)).state.voteEncryptions =
          some E) ∧
    ∀ (op : Op) (w : World AVClient),
      (∀ encryptVotes cvr, op ≠ .constructBallotCryptograms encryptVotes cvr) →
      (settled (op.run w)).state.voteEncryptions = w.state.voteEncryptions := by
  refine ⟨?_, fun op w hop => Op.run_voteEncryptions hop w⟩
  have hne : (runOps initialWorld ops).state.voteEncryptions ≠
      initialWorld.state.voteEncryptions := by
    rw [h]; simp [initialWorld, AVClient.new]
  obtain ⟨pre, op, post, rfl, hchange, hkeep⟩ :=
    runOps_lastChange AVClient.voteEncryptions initialWorld ops hne
  obtain ⟨encryptVotes, cvr, c, E', rfl, hc, hE', hset⟩ :=
    (Op.run_effect op _).voteEncryptions_changed hchange
  have hE : E' = E := by
    have h0 := hkeep 0 (Nat.zero_le _)
    rw [List.take_zero, runOps_snoc] at h0
    rw [h0, h] at hset
    exact (Option.some_injective _ hset).symm
  subst hE
  exact ⟨pre, encryptVotes, cvr, post, c, rfl, resolves_of_changed hchange (fun _ _ => rfl), hc,
    hE', fun k hk => (hkeep k hk).trans h⟩

/-- A second registration of a voter `w`, with the empty cryptogram `y` for contest `1`. -/
def contestOneReregistration : RegisterVoterResponse :=
  ⟨some (.ofString "w"),
    some ⟨[(.ofString "1", ⟨.ofString "y"⟩)], List.nodup_singleton _⟩,
    some [1]⟩

/-- A registration, the construction of `cvrOne`, and a second registration that resolves. -/
def reregistrationRun : List Op :=
  otpRegistration keyA contestOneRegistration ++
    [.constructBallotCryptograms plainEncryption cvrOne,
     .registerVoter keyB sampleAuthorization (.ok contestOneReregistration)]

/-- The envelopes at the end of `reregistrationRun` come from its construction call. -/
theorem reregistrationRun_last_construction :
    (runOps initialWorld reregistrationRun).state.voteEncryptions = some envelopesOne ∧
    (∃ pre encryptVotes cvr post c,
      reregistrationRun = pre ++ .constructBallotCryptograms encryptVotes cvr :: post ∧
      Resolves (.constructBallotCryptograms encryptVotes cvr) (runOps initialWorld pre) ∧
      (runOps initialWorld pre).state.electionConfig = some c ∧
      encryptBallot encryptVotes cvr (runOps initialWorld pre).state.emptyCryptograms c =
        .ok envelopesOne ∧
      ∀ k ≤ post.length, (runOps initialWorld
        (pre ++ .constructBallotCryptograms encryptVotes cvr :: post.take k)).state.voteEncryptions =
          some envelopesOne) ∧
    ∀ (op : Op) (w : World AVClient),
      (∀ encryptVotes cvr, op ≠ .constructBallotCryptograms encryptVotes cvr) →
      (settled (op.run w)).state.voteEncryptions = w.state.voteEncryptions :=
  ⟨by decide, voteEncryptions_last_construction reregistrationRun (by decide)⟩

/-- **Envelopes outlive a registration.** After a ballot was constructed and the voter
registered again, the session holds the new voter identifier `w`, key pair `b` and empty
cryptogram `y`, and still the envelopes built from the first registration's empty cryptogram
`x`. -/
theorem voteEncryptions_survive_reregistration :
    (runOps initialWorld reregistrationRun).state.voterIdentifier = some (.ofString "w") ∧
      (runOps initialWorld reregistrationRun).state.keyPair = some keyB ∧
      (runOps initialWorld reregistrationRun).state.emptyCryptograms.bind
        (·.get? (.ofString "1")) = some ⟨.ofString "y"⟩ ∧
      (runOps initialWorld reregistrationRun).state.voteEncryptions = some envelopesOne := by
  decide

/-! ## Construction and submission in a registered session -/

/-- A registration of voter `v`, eligible for contest `1` only, with empty cryptograms for both
contests. -/
def bothIssuedRegistration : RegisterVoterResponse :=
  ⟨some (.ofString "v"),
    some ⟨[(.ofString "1", ⟨.ofString "x"⟩), (.ofString "2", ⟨.ofString "y"⟩)],
      by decide⟩,
    some [1]⟩

/-- The session after the OTP registration of voter `v` with `bothIssuedRegistration`. -/
def bothIssuedWorld : World AVClient :=
  runOps initialWorld (otpRegistration keyA bothIssuedRegistration)

/-- **Construction does not consult the contest ids.** For a voter eligible for contest `1`
only, the valid CVR `{ '2': 'optiona' }` makes `constructBallotCryptograms` throw a `TypeError`
when the registration issued no empty cryptogram for contest `2`, and is encrypted when it
did. -/
theorem construction_outside_contestIds :
    validateCvr cvrTwo twoContestConfig.ballots = .okay ∧
      registeredWorld.state.contestIds = some [1] ∧
      outcome ((Op.constructBallotCryptograms plainEncryption cvrTwo).run registeredWorld) =
        .rejected .typeError ∧
      bothIssuedWorld.state.contestIds = some [1] ∧
      outcome ((Op.constructBallotCryptograms plainEncryption cvrTwo).run bothIssuedWorld) =
        .resolved (.string (.ofString "tc")) ∧
      (settled ((Op.constructBallotCryptograms plainEncryption cvrTwo).run
        bothIssuedWorld)).state.voteEncryptions.map ContestMap.keys = some [.ofString "2"] := by
  decide

/-- The session after the OTP registration and the construction of `cvrOne`. -/
def constructedWorld : World AVClient :=
  runOps initialWorld (otpRegistration keyA contestOneRegistration ++
    [.constructBallotCryptograms plainEncryption cvrOne])

/-- **Submission after construction.** After the OTP registration and a construction that
stored `envelopesOne`, `submitBallotCryptograms` rejects with a `TypeError` and makes no
request: neither `getBoardHash` nor `submitVotes` is called. -/
theorem submission_after_construction_rejects :
    constructedWorld.state.voteEncryptions = some envelopesOne ∧
      outcome ((Op.submitBallotCryptograms (.ofString "affidavit bytes")).run constructedWorld) =
        .rejected .typeError ∧
      (settled ((Op.submitBallotCryptograms (.ofString "affidavit bytes")).run
        constructedWorld)).calls = constructedWorld.calls := by
  decide

/-! ## The last answer a field stores

Some fields are written only by a call that resolves, and then from the answer it carries:
`authenticateWithCodes` and `registerVoter` store the voter identifier and the empty
cryptograms of one answer together, `requestAccessCode` stores the session id it is answered with
the email, and `validateAccessCode` stores the token it is answered. A call that rejects leaves
each of them, though a `registerVoter` that rejects has replaced the key pair. Such a field holds,
at the end of any run, the answer of the last call that stored one. -/

/-- What a call made at `w` stores from the answer it carries: the answer, if the call
resolves. -/
def Op.stored {β : Type} (answer : Op → Option β) (op : Op) (w : World AVClient) : Option β :=
  match op.run w with
  | .ok _ _ => answer op
  | .error _ _ => none

theorem Op.stored_eq_some {β : Type} {answer : Op → Option β} {op : Op} {w : World AVClient}
    {a : β} : op.stored answer w = some a ↔ Resolves op w ∧ answer op = some a := by
  unfold Op.stored Resolves
  cases op.run w <;> simp

/-- No call of `ops`, run from `w`, stores an answer. -/
def NoneStored {β : Type} (answer : Op → Option β) (w : World AVClient) (ops : List Op) : Prop :=
  ∀ pre op post, ops = pre ++ op :: post → op.stored answer (runOps w pre) = none

theorem NoneStored.snoc {β : Type} {answer : Op → Option β} {w : World AVClient} {ops : List Op}
    {op : Op} (h : NoneStored answer w ops) (hop : op.stored answer (runOps w ops) = none) :
    NoneStored answer w (ops ++ [op]) := by
  intro pre op' post heq
  rcases List.eq_nil_or_concat post with rfl | ⟨L, b, rfl⟩
  · obtain ⟨rfl, hb⟩ := List.append_inj' heq rfl
    cases hb
    exact hop
  · have heq' : ops ++ [op] = (pre ++ op' :: L) ++ [b] := by simpa using heq
    obtain ⟨rfl, -⟩ := List.append_inj' heq' rfl
    exact h pre op' L rfl

/-- The step equation of a field `f` that only a resolved call with an answer changes, to that
answer: every `Effect` of a call without an answer keeps `f`, a resolved call with an answer
sets `f` to it, and `f` does not read the key pair. -/
theorem Op.run_stored {β : Type} (f : AVClient → β) (answer : Op → Option β)
    (heff : ∀ op s s', Effect op s s' → answer op = none → f s' = f s)
    (hok : ∀ op w reply w' a, op.run w = .ok reply w' → answer op = some a → f w'.state = a)
    (hkey : ∀ s keyPair, f { s with keyPair := some keyPair } = f s) (op : Op)
    (w : World AVClient) :
    f (settled (op.run w)).state = (op.stored answer w).getD (f w.state) := by
  cases hr : op.run w with
  | error e w' =>
    simp only [Op.stored, hr, settled_error, Option.getD_none]
    rcases Op.run_error hr with hs | ⟨keyPair, _, _, _, _, hs⟩ <;> rw [hs]
    exact hkey _ _
  | ok reply w' =>
    have heffect := Op.run_effect op w
    simp only [Op.stored, hr, settled_ok] at heffect ⊢
    cases ha : answer op with
    | none => exact heff op _ _ heffect ha
    | some a => exact hok op w reply w' a hr ha

/-- **The last answer.** For a field `f` with the step equation of `Op.run_stored`, in every
run either no call stored an answer and `f` is as at the start, or `f` holds the answer stored
by the last call that stored one, however many calls followed it. -/
theorem runOps_lastAnswer {β : Type} (f : AVClient → β) (answer : Op → Option β)
    (hstep : ∀ (op : Op) w, f (settled (op.run w)).state = (op.stored answer w).getD (f w.state))
    (w : World AVClient) (ops : List Op) :
    (f (runOps w ops).state = f w.state ∧ NoneStored answer w ops) ∨
    ∃ pre op post a, ops = pre ++ op :: post ∧ op.stored answer (runOps w pre) = some a ∧
      NoneStored answer (runOps w (pre ++ [op])) post ∧ f (runOps w ops).state = a := by
  induction ops using List.reverseRecOn with
  | nil => exact .inl ⟨rfl, fun pre op post h => by simp at h⟩
  | append_singleton ops op ih =>
    rw [runOps_snoc, hstep]
    rcases hop : op.stored answer (runOps w ops) with _ | a
    · rw [Option.getD_none]
      rcases ih with ⟨hf, hn⟩ | ⟨pre, op', post, a, rfl, hs, hn, hf⟩
      · exact .inl ⟨hf, hn.snoc hop⟩
      · refine .inr ⟨pre, op', post ++ [op], a, by simp, hs, hn.snoc ?_, hf⟩
        rwa [← runOps_append, List.append_assoc, List.singleton_append]
    · exact .inr ⟨ops, op, [], a, rfl, hop, fun pre op post h => by simp at h, rfl⟩

/-! ### The voter identifier and the empty cryptograms -/

/-- The voter identifier and the empty cryptograms of the session. -/
def registrationFields (s : AVClient) : Option JsString × Option (ContestMap EmptyCryptogram) :=
  (s.voterIdentifier, s.emptyCryptograms)

/-- The voter identifier and empty cryptograms a call carries: the answer of
`authenticateWithCodes`, or the board's answer to the registration of `registerVoter`. -/
def Op.registrationAnswer : Op → Option (Option JsString × Option (ContestMap EmptyCryptogram))
  | .authenticateWithCodes _ (.ok r) => some (r.voterIdentifier, r.emptyCryptograms)
  | .registerVoter _ _ (.ok r) => some (r.voterIdentifier, r.emptyCryptograms)
  | _ => none

theorem Op.run_registrationFields (op : Op) (w : World AVClient) :
    registrationFields (settled (op.run w)).state =
      (op.stored Op.registrationAnswer w).getD (registrationFields w.state) := by
  refine Op.run_stored registrationFields Op.registrationAnswer (fun op s s' h ha => ?_)
    (fun op w reply w' a hr ha => ?_) (fun _ _ => rfl) op w
  · cases h <;> first | rfl | (subst_vars; cases ha)
  · cases op with
    | authenticateWithCodes codes response =>
      obtain ⟨_, h, -⟩ := map_eq_ok.mp hr
      obtain ⟨r, rfl, hs⟩ := authenticateWithCodes_ok h
      cases ha
      rw [hs]; rfl
    | registerVoter keyPair authorization registration =>
      obtain ⟨_, h, -⟩ := map_eq_ok.mp hr
      obtain ⟨-, r, rfl, hs⟩ := registerVoter_ok h
      cases ha
      rw [hs]; rfl
    | _ => cases ha

/-- **The voter identifier and the empty cryptograms come from one answer.** In every run, from
any state and whatever the collaborators answer, either no call stored them and both are as
they were at the start, or both are those of the answer stored by the last call that stored
one, a resolved `authenticateWithCodes` or `registerVoter`, however many calls followed it. -/
theorem registrationFields_last_answer (w : World AVClient) (ops : List Op) :
    (registrationFields (runOps w ops).state = registrationFields w.state ∧
      NoneStored Op.registrationAnswer w ops) ∨
    ∃ pre op post answer, ops = pre ++ op :: post ∧
      op.stored Op.registrationAnswer (runOps w pre) = some answer ∧
      NoneStored Op.registrationAnswer (runOps w (pre ++ [op])) post ∧
      registrationFields (runOps w ops).state = answer :=
  runOps_lastAnswer _ _ Op.run_registrationFields w ops

/-! ### The session and the identity confirmation token -/

/-- The session id and the email of the session. -/
def sessionFields (s : AVClient) : Option JsString × Option JsString :=
  (s.authorizationSessionId, s.email)

/-- The session id and email a `requestAccessCode` carries: the session id it is answered, and
its email. -/
def Op.sessionAnswer : Op → Option (Option JsString × Option JsString)
  | .requestAccessCode _ email (.ok (some d)) => some (d.sessionId, some email)
  | _ => none

/-- The identity confirmation token a `validateAccessCode` is answered. -/
def Op.tokenAnswer : Op → Option (Option JsString)
  | .validateAccessCode _ (.ok t) => some t
  | _ => none

theorem Op.run_sessionFields (op : Op) (w : World AVClient) :
    sessionFields (settled (op.run w)).state =
      (op.stored Op.sessionAnswer w).getD (sessionFields w.state) := by
  refine Op.run_stored sessionFields Op.sessionAnswer (fun op s s' h ha => ?_)
    (fun op w reply w' a hr ha => ?_) (fun _ _ => rfl) op w
  · cases h <;> first | rfl | (subst_vars; cases ha)
  · cases op with
    | requestAccessCode opaqueVoterId email response =>
      obtain ⟨_, h, -⟩ := map_eq_ok.mp hr
      obtain ⟨_, d, -, rfl, rfl⟩ := requestAccessCode_ok h
      cases ha
      rfl
    | _ => cases ha

theorem Op.run_identityConfirmationToken (op : Op) (w : World AVClient) :
    (settled (op.run w)).state.identityConfirmationToken =
      (op.stored Op.tokenAnswer w).getD w.state.identityConfirmationToken := by
  refine Op.run_stored AVClient.identityConfirmationToken Op.tokenAnswer (fun op s s' h ha => ?_)
    (fun op w reply w' a hr ha => ?_) (fun _ _ => rfl) op w
  · cases h <;> first | rfl | (subst_vars; cases ha)
  · cases op with
    | validateAccessCode code response =>
      obtain ⟨_, h, -⟩ := map_eq_ok.mp hr
      obtain ⟨_, _, t, -, -, rfl, rfl⟩ := validateAccessCode_ok h
      cases ha
      rfl
    | _ => cases ha

/-- In every run from a new client, a stored identity confirmation token comes with a stored
email: `validateAccessCode` only resolves with one, and nothing unsets it. -/
theorem email_of_identityConfirmationToken (ops : List Op) :
    (runOps initialWorld ops).state.identityConfirmationToken ≠ none →
      (runOps initialWorld ops).state.email ≠ none := by
  refine runOps_invariant (fun s => s.identityConfirmationToken ≠ none → s.email ≠ none)
    (fun op s s' heff hs => ?_) initialWorld ops (fun h => (h rfl).elim)
  cases heff with
  | requestAccess s url d _ _ => exact fun _ => Option.some_ne_none _
  | validateAccess s url t he _ _ =>
    exact fun _ hnone => by rw [show s.email = none from hnone] at he; cases he
  | _ => exact hs

end AvClient
