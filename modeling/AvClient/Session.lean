import AvClient.ElectionConfig
import AvClient.SubmitVotes

/-!
# The voter session (`AVClient`)

The class `AVClient` of `av_client.ts` keeps the session in its private fields and sequences
the voting process through its public methods. Each method is modelled here as an `Async`
computation over those fields, in the order the source reads and writes them: a field assigned
before an awaited call that rejects stays assigned. The collaborators' answers (the board, the
voter authorization coordinator, the OTP provider, the key and test-code generators and the
vote encryption) are arguments of each method.

The file `av_client.ts` also holds an older `AVClient` class (the `Connector`/`Storage`
version), which nothing else in the sources uses; it is modelled on its own in `Legacy`.

## Main results

* `getElectionConfig_apply`, `serviceUrl_apply` — the reads of the configuration, as the value
  read or the error thrown.
* `encryptBallot_ok` — what an encryption of a ballot that succeeds is made of.
* `constructBallotCryptograms_ok_iff` — when construction succeeds and what it stores.
* `registerVoter_error` — the one method that keeps a write when it rejects: the new key pair.
* `submitBallotCryptograms_error` — submission rejects in every state, before any request.
-/

namespace AvClient

open Json Async SubmitVotes

/-- Type `EmptyCryptogram`: the client reads its `empty_cryptogram`. -/
structure EmptyCryptogram where
  empty_cryptogram : JsString
  deriving DecidableEq

/-- The fields of an `AVClient`. The field `bulletinBoard`, fixed by the constructor, is left
out: the board's answers are arguments of the methods. -/
structure AVClient where
  authorizationSessionId : Option JsString
  email : Option JsString
  identityConfirmationToken : Option JsString
  electionConfig : Option ElectionConfig
  emptyCryptograms : Option (ContestMap EmptyCryptogram)
  keyPair : Option KeyPair
  testCode : Option JsString
  voteEncryptions : Option (ContestMap EncryptedVote)
  voterIdentifier : Option JsString
  contestIds : Option (List Nat)
  deriving DecidableEq

/-- The `data` of a `createSession` response. -/
structure SessionData where
  sessionId : Option JsString
  deriving DecidableEq

/-- The `data` of a `requestPublicKeyAuthorization` response. -/
structure PublicKeyAuthorization where
  registrationToken : Option JsString
  publicKeyToken : Option JsString
  deriving DecidableEq

/-- What function `registerVoter` of `register_voter.ts` resolves with. -/
structure RegisterVoterResponse where
  voterIdentifier : Option JsString
  emptyCryptograms : Option (ContestMap EmptyCryptogram)
  contestIds : Option (List Nat)
  deriving DecidableEq

/-- What `AuthenticateWithCodes.authenticate` resolves with. -/
structure AuthenticationResponse where
  voterIdentifier : Option JsString
  keyPair : Option KeyPair
  emptyCryptograms : Option (ContestMap EmptyCryptogram)
  deriving DecidableEq

/-! ## Texts of the errors -/

/-- Message of `getElectionConfig`'s `InvalidStateError`. -/
def noConfigurationLoaded : JsString :=
  .ofString "No configuration loaded. Did you call initialize()?"

/-- Message of `getAuthorizationMethod`'s `InvalidConfigError`. -/
def authorizationMethodNotFound : JsString :=
  .ofString "Authorization method not found in election config"

/-- Message of `validateAccessCode`'s `InvalidStateError`. -/
def accessCodeNotRequested : JsString :=
  .ofString "Cannot validate access code. Access code was not requested."

/-- Message of `registerVoter`'s `InvalidStateError`. -/
def identityNotConfirmed : JsString :=
  .ofString "Cannot register voter without identity confirmation. User has not validated access code."

/-- Message of `constructBallotCryptograms`'s `InvalidStateError`. -/
def registrationNotCompleted : JsString :=
  .ofString "Cannot construct ballot cryptograms. Voter registration not completed successfully"

/-- Message of the `CorruptCvrError` for a contest the configuration does not have. -/
def invalidContest : JsString := .ofString "Corrupt CVR: Contains invalid contest"

/-- Message of the `CorruptCvrError` for an option its contest does not have. -/
def invalidOption : JsString := .ofString "Corrupt CVR: Contains invalid option"

/-- Message of `spoilBallotCryptograms`'s `Error`. -/
def notImplementedYet : JsString := .ofString "Not implemented yet"

/-- Message of `submitBallotCryptograms`'s `InvalidStateError`. -/
def cannotSubmitCryptograms : JsString :=
  .ofString "Cannot submit cryptograms. Voter identity unknown or no open envelopes"

/-- A string property in a truthiness test (`if (!this.email)`): its value, when truthy. -/
def truthyValue : Option JsString → Option JsString
  | some s => if s.isEmpty then none else some s
  | none => none

@[simp] theorem truthyValue_eq_none {x : Option JsString} :
    truthyValue x = none ↔ truthy x = false := by
  cases x <;> simp [truthyValue, truthy]

theorem truthyValue_eq_some {x : Option JsString} {s : JsString} :
    truthyValue x = some s ↔ x = some s ∧ truthy x = true := by
  cases x with
  | none => simp [truthyValue]
  | some v => by_cases h : v.isEmpty <;> simp [truthyValue, truthy, h]

/-! ## Ballot construction -/

/-- Modelled from the spec (`encrypt_votes.ts` is not in the sources): the class
`EncryptVotes`. `encrypt` yields one envelope per contest of the CVR, from the contest's
selection, its empty cryptogram, its encoding type and the election key, by the per-contest
encryption `encryptContest` (its randomness included); `fingerprint` hashes the cryptograms
into the tracking code. -/
structure EncryptVotes where
  encryptContest : JsString → Option JsString → Option Nat → JsString → EncryptedVote
  fingerprint : ContestMap JsString → JsString

/-- Modelled from the spec: `EncryptVotes.encrypt(cvr, emptyCryptograms, contestEncodingTypes,
encryptionKey)`, one envelope per contest of `cvr`, in its order. -/
def EncryptVotes.encrypt (encryptVotes : EncryptVotes) (cvr : ContestMap JsString)
    (emptyCryptograms : ContestMap JsString) (contestEncodingTypes : ContestMap Nat)
    (encryptionKey : JsString) : ContestMap EncryptedVote :=
  cvr.mapWithKey fun contestId selection =>
    encryptVotes.encryptContest selection (emptyCryptograms.get? contestId)
      (contestEncodingTypes.get? contestId) encryptionKey

/-- Outcome of `validateCvr`: `:invalid_contest`, `:invalid_option` or `:okay`. -/
inductive CvrValidation where
  | invalidContest
  | invalidOption
  | okay
  deriving DecidableEq

/-- The ballot `contests.find(b => b.id.toString() == contestId)`. -/
def contestOf (contests : List Ballot) (contestId : JsString) : Option Ballot :=
  contests.find? fun b => decimal b.id == contestId

/-- Modelled from the spec (`cvr_validation.ts` is not in the sources): `validateCvr(cvr,
contests)` is `:invalid_contest` when a contest id of the CVR names no configured ballot, else
`:invalid_option` when a selection is not an option of its contest, else `:okay`. -/
def validateCvr (cvr : ContestMap JsString) (contests : List Ballot) : CvrValidation :=
  if cvr.keys.any fun contestId => (contestOf contests contestId).isNone then .invalidContest
  else if cvr.entries.any fun p => !((contestOf contests p.1).any fun b => b.options.contains p.2)
  then .invalidOption
  else .okay

/-- The `switch` of `constructBallotCryptograms` on `validateCvr`'s answer: the
`CorruptCvrError` it throws, if any. -/
def checkCvr : CvrValidation → Except Rejection Unit
  | .invalidContest => .error (.corruptCvr invalidContest)
  | .invalidOption => .error (.corruptCvr invalidOption)
  | .okay => .ok ()

/-- Expression `this.emptyCryptograms[contestId].empty_cryptogram`: a `TypeError` when the
session has no map, or the map no entry for the contest. -/
def emptyCryptogramOf (emptyCryptograms : Option (ContestMap EmptyCryptogram))
    (contestId : JsString) : Except Rejection JsString :=
  match emptyCryptograms.bind (·.get? contestId) with
  | some emptyCryptogram => .ok emptyCryptogram.empty_cryptogram
  | none => .error .typeError

/-- Expression `contest!.vote_encoding_type` of the ballot of `contestId`: a `TypeError` when
no ballot has that id. -/
def encodingTypeOf (contests : List Ballot) (contestId : JsString) : Except Rejection Nat :=
  match contestOf contests contestId with
  | some contest => .ok contest.vote_encoding_type
  | none => .error .typeError

/-- The statements of `constructBallotCryptograms` from `emptyCryptograms` to `envelopes`: the
empty cryptogram and the encoding type of every contest of the CVR, then the encryption. -/
def encryptBallot (encryptVotes : EncryptVotes) (cvr : ContestMap JsString)
    (registered : Option (ContestMap EmptyCryptogram)) (electionConfig : ElectionConfig) :
    Except Rejection (ContestMap EncryptedVote) := do
  let emptyCryptograms ← cvr.mapExcept fun contestId _ => emptyCryptogramOf registered contestId
  let contestEncodingTypes ← cvr.mapExcept fun contestId _ =>
    encodingTypeOf electionConfig.ballots contestId
  pure (encryptVotes.encrypt cvr emptyCryptograms contestEncodingTypes
    electionConfig.encryptionKey)

/-- Method `extractCryptograms`. -/
def extractCryptograms (envelopes : ContestMap EncryptedVote) : ContestMap JsString :=
  envelopes.mapWithKey fun _ envelope => envelope.cryptogram

theorem emptyCryptogramOf_ok {registered : Option (ContestMap EmptyCryptogram)} {k v : JsString} :
    emptyCryptogramOf registered k = .ok v ↔
      ∃ m ec, registered = some m ∧ m.get? k = some ec ∧ ec.empty_cryptogram = v := by
  unfold emptyCryptogramOf
  rcases registered with _ | m
  · simp
  · cases hk : m.get? k <;> simp [hk]

theorem emptyCryptogramOf_error {registered : Option (ContestMap EmptyCryptogram)} {k : JsString}
    {e : Rejection} (h : emptyCryptogramOf registered k = .error e) : e = .typeError := by
  unfold emptyCryptogramOf at h
  split at h <;> cases h
  rfl

theorem encodingTypeOf_ok {ballots : List Ballot} {k : JsString} {t : Nat} :
    encodingTypeOf ballots k = .ok t ↔
      ∃ b, contestOf ballots k = some b ∧ b.vote_encoding_type = t := by
  unfold encodingTypeOf
  cases hb : contestOf ballots k <;> simp

section Encryption

variable {encryptVotes : EncryptVotes} {cvr : ContestMap JsString}
  {registered : Option (ContestMap EmptyCryptogram)} {c : ElectionConfig}

/-- **What gets encrypted.** An encryption of a ballot that succeeds yields one envelope per
contest of the CVR, in its order, and every contest of the CVR has an issued empty cryptogram
and a configured ballot, from which its envelope is made. -/
theorem encryptBallot_ok {E : ContestMap EncryptedVote}
    (h : encryptBallot encryptVotes cvr registered c = .ok E) :
    E.keys = cvr.keys ∧ ∀ k selection, cvr.get? k = some selection →
      ∃ m ec ballot, registered = some m ∧ m.get? k = some ec ∧
        contestOf c.ballots k = some ballot ∧
        E.get? k = some (encryptVotes.encryptContest selection (some ec.empty_cryptogram)
          (some ballot.vote_encoding_type) c.encryptionKey) := by
  unfold encryptBallot at h
  rcases h1 : cvr.mapExcept (fun contestId _ => emptyCryptogramOf registered contestId) with
    e | emptyCryptograms <;>
  rcases h2 : cvr.mapExcept (fun contestId _ => encodingTypeOf c.ballots contestId) with
    e' | contestEncodingTypes <;>
  simp only [h1, h2, bind, Except.bind, pure, Except.pure, reduceCtorEq, Except.ok.injEq] at h
  subst h
  refine ⟨by simp [EncryptVotes.encrypt], fun k selection hsel => ?_⟩
  obtain ⟨v, hv, hget1⟩ := ContestMap.mapExcept_ok_get? h1 hsel
  obtain ⟨t, ht, hget2⟩ := ContestMap.mapExcept_ok_get? h2 hsel
  obtain ⟨m, ec, hm, hk, rfl⟩ := emptyCryptogramOf_ok.mp hv
  obtain ⟨b, hb, rfl⟩ := encodingTypeOf_ok.mp ht
  exact ⟨m, ec, b, hm, hk, hb, by simp [EncryptVotes.encrypt, hsel, hget1, hget2]⟩

/-- The encryption throws a `TypeError` when the CVR names a contest without an issued empty
cryptogram. -/
theorem encryptBallot_unissued {k : JsString} (hk : k ∈ cvr.keys)
    (hmiss : registered.bind (·.get? k) = none) :
    encryptBallot encryptVotes cvr registered c = .error .typeError := by
  obtain ⟨p, hp, rfl⟩ := List.mem_map.mp hk
  have hfail : cvr.mapExcept (fun contestId _ => emptyCryptogramOf registered contestId) =
      .error .typeError :=
    ContestMap.mapExcept_error (fun _ _ _ h => emptyCryptogramOf_error h) hp
      (by simp [emptyCryptogramOf, hmiss])
  simp [encryptBallot, hfail, bind, Except.bind]

end Encryption

/-- Call `votesSubmitter.encryptAffidavit(affidavit, affidavitConfig)`. The class `SubmitVotes`
of `submit_votes.ts` defines `signAndSubmitVotes`, `acknowledge`, `submit` and `verifyReceipt`
and no `encryptAffidavit`: the property is `undefined`, and calling it throws a `TypeError`. -/
def encryptAffidavit {σ α : Type} (_affidavit : JsString)
    (_affidavitConfig : Option AffidavitConfig) : Async σ α :=
  throw .typeError

/-- The configuration `getElectionConfig` returns, or the error it throws. -/
def loadedConfig : Option ElectionConfig → Except Rejection ElectionConfig
  | some electionConfig => .ok electionConfig
  | none => .error (.invalidState noConfigurationLoaded)

/-- The value of `this.getElectionConfig().services.<service>.url`, or the error it throws: a
`TypeError` when `services` or the service is `undefined`. -/
def serviceUrlOf (electionConfig : Option ElectionConfig) (service : Services → Option Service) :
    Except Rejection (Option JsString) :=
  match electionConfig with
  | none => .error (.invalidState noConfigurationLoaded)
  | some c => match c.services.bind service with
    | some svc => .ok svc.url
    | none => .error .typeError

/-- The guard of `constructBallotCryptograms`:
`this.voterIdentifier || this.emptyCryptograms || this.contestIds`. -/
def constructionGuard (s : AVClient) : Bool :=
  truthy s.voterIdentifier || s.emptyCryptograms.isSome || s.contestIds.isSome

/-- The guard of `submitBallotCryptograms`: `this.voterIdentifier || this.voteEncryptions`. -/
def submissionGuard (s : AVClient) : Bool :=
  truthy s.voterIdentifier || s.voteEncryptions.isSome

namespace AVClient

/-- Constructor `new AVClient(bulletinBoardURL)`: every session field is `undefined`. -/
def new : AVClient := ⟨none, none, none, none, none, none, none, none, none, none⟩

/-- Method `getElectionConfig`. -/
def getElectionConfig : Async AVClient ElectionConfig := do
  match (← fields).electionConfig with
  | some electionConfig => pure electionConfig
  | none => throw (.invalidState noConfigurationLoaded)

/-- Method `electionId`. -/
def electionId : Async AVClient Nat := do
  return (← getElectionConfig).election.id

/-- Method `electionEncryptionKey`. -/
def electionEncryptionKey : Async AVClient JsString := do
  return (← getElectionConfig).encryptionKey

/-- Method `electionSigningPublicKey`. -/
def electionSigningPublicKey : Async AVClient JsString := do
  return (← getElectionConfig).signingPublicKey

/-- Method `affidavitConfig`. -/
def affidavitConfig : Async AVClient (Option AffidavitConfig) := do
  return (← getElectionConfig).affidavit

/-- Method `privateKey`: `this.keyPair.privateKey`. -/
def privateKey : Async AVClient JsString := do
  return (← deref (← fields).keyPair).privateKey

/-- Expression `this.getElectionConfig().services.<service>.url`. -/
def serviceUrl (service : Services → Option Service) : Async AVClient (Option JsString) := do
  let services ← deref (← getElectionConfig).services
  return (← deref (service services)).url

/-- Method `initialize`, with the configuration it may be given and the board's answer to the
request it makes when it is given none. -/
def initializeClient (electionConfig : Option ElectionConfig)
    (response : Except JsString (Option ElectionConfig)) : Async AVClient Unit := do
  let electionConfig ← match electionConfig with
    | some electionConfig => pure electionConfig
    | none => fetchElectionConfig response
  Async.ofExcept (validateElectionConfig electionConfig)
  write fun s => { s with electionConfig := some electionConfig }

/-- Method `getAuthorizationMethod`, resolving with the method's name. -/
def getAuthorizationMethod : Async AVClient JsString := do
  let authorizationMode := (← getElectionConfig).authorizationMode
  if authorizationMode = some (.ofString "election codes") then
    pure (.ofString "authenticateWithCodes")
  else if authorizationMode = some (.ofString "otps") then
    pure (.ofString "requestAccessCode")
  else throw (.invalidConfig authorizationMethodNotFound)

/-- Method `authenticateWithCodes`. -/
def authenticateWithCodes (codes : List JsString)
    (response : Except JsString AuthenticationResponse) : Async AVClient Unit := do
  let authenticationResponse ←
    await (.authenticate codes (← electionId) (← electionEncryptionKey)) response
  write fun s => { s with
    voterIdentifier := authenticationResponse.voterIdentifier
    keyPair := authenticationResponse.keyPair
    emptyCryptograms := authenticationResponse.emptyCryptograms }

/-- Method `requestAccessCode`; `({ data: { sessionId } })` throws a `TypeError` on a response
without `data`. -/
def requestAccessCode (opaqueVoterId email : JsString)
    (response : Except JsString (Option SessionData)) : Async AVClient Unit := do
  let coordinatorURL ← serviceUrl Services.voter_authorizer
  let data ← await (.createSession coordinatorURL opaqueVoterId email) response
  let sessionData ← deref data
  write fun s => { s with authorizationSessionId := sessionData.sessionId, email := some email }

/-- Method `validateAccessCode`. -/
def validateAccessCode (code : JsString) (response : Except JsString (Option JsString)) :
    Async AVClient Unit := do
  let some email := truthyValue (← fields).email
    | throw (.invalidState accessCodeNotRequested)
  let url ← serviceUrl Services.otp_provider
  let identityConfirmationToken ← await (.requestOTPAuthorization url code email) response
  write fun s => { s with identityConfirmationToken := identityConfirmationToken }

/-- Method `registerVoter`, with the key pair `randomKeyPair()` returns and the answers of the
coordinator and of the board. The key pair is assigned before the first `await`. -/
def registerVoter (keyPair : KeyPair)
    (authorization : Except JsString (Option PublicKeyAuthorization))
    (registration : Except JsString RegisterVoterResponse) : Async AVClient Unit := do
  let some identityConfirmationToken := truthyValue (← fields).identityConfirmationToken
    | throw (.invalidState identityNotConfirmed)
  write fun s => { s with keyPair := some keyPair }
  let coordinatorURL ← serviceUrl Services.voter_authorizer
  let authorizationResponse ← await (.requestPublicKeyAuthorization coordinatorURL
    (← fields).authorizationSessionId identityConfirmationToken keyPair.publicKey) authorization
  let data ← deref authorizationResponse
  let registerVoterResponse ← await (.registerVoter keyPair (← getElectionConfig).encryptionKey
    data.registrationToken data.publicKeyToken) registration
  write fun s => { s with
    voterIdentifier := registerVoterResponse.voterIdentifier
    emptyCryptograms := registerVoterResponse.emptyCryptograms
    contestIds := registerVoterResponse.contestIds }

/-- Method `constructBallotCryptograms`, resolving with the tracking code. -/
def constructBallotCryptograms (encryptVotes : EncryptVotes) (cvr : ContestMap JsString) :
    Async AVClient JsString := do
  let s ← fields
  check (constructionGuard s) (.invalidState registrationNotCompleted)
  let electionConfig ← getElectionConfig
  Async.ofExcept (checkCvr (validateCvr cvr electionConfig.ballots))
  let envelopes ←
    Async.ofExcept (encryptBallot encryptVotes cvr s.emptyCryptograms electionConfig)
  let trackingCode := encryptVotes.fingerprint (extractCryptograms envelopes)
  write fun s => { s with voteEncryptions := some envelopes }
  pure trackingCode

/-- Method `generateTestCode`, with the code `EncryptVotes.generateTestCode()` returns. -/
def generateTestCode (testCode : JsString) : Async AVClient Unit :=
  write fun s => { s with testCode := some testCode }

/-- Method `spoilBallotCryptograms`. -/
def spoilBallotCryptograms : Async AVClient Unit :=
  throw (.error notImplementedYet)

/-- Method `submitBallotCryptograms`. The arguments are read in the source's order; the call
of `encryptAffidavit` then throws, and the `signAndSubmitVotes` call after it is not reached. -/
def submitBallotCryptograms (affidavit : JsString) : Async AVClient VoteReceipt := do
  let s ← fields
  check (submissionGuard s) (.invalidState cannotSubmitCryptograms)
  let _electionId ← electionId
  let _voterPrivateKey ← privateKey
  let _electionSigningPublicKey ← electionSigningPublicKey
  let affidavitConfig ← affidavitConfig
  encryptAffidavit affidavit affidavitConfig

/-- Method `purgeData`. -/
def purgeData : Async AVClient Unit := pure ()

/-! ## Reads of the fields -/

section Methods

variable {w w' : World AVClient} {e : Rejection}

@[simp] theorem getElectionConfig_apply (w : World AVClient) :
    getElectionConfig w = Async.ofExcept (loadedConfig w.state.electionConfig) w := by
  cases h : w.state.electionConfig <;> simp [getElectionConfig, loadedConfig, h]

@[simp] theorem serviceUrl_apply (service : Services → Option Service) (w : World AVClient) :
    serviceUrl service w = Async.ofExcept (serviceUrlOf w.state.electionConfig service) w := by
  rcases h : w.state.electionConfig with _ | c
  · simp [serviceUrl, serviceUrlOf, loadedConfig, h]
  · rcases hs : c.services with _ | s
    · simp [serviceUrl, serviceUrlOf, loadedConfig, h, hs]
    · cases hv : service s <;> simp [serviceUrl, serviceUrlOf, loadedConfig, h, hs, hv]

/-- A URL read from a configuration that passed `validateElectionConfig`, for either service,
is non-empty. -/
theorem serviceUrlOf_truthy {electionConfig : Option ElectionConfig}
    (hv : ∀ c, electionConfig = some c → validateElectionConfig c = .ok ())
    {service : Services → Option Service}
    (hs : service = Services.voter_authorizer ∨ service = Services.otp_provider)
    {url : Option JsString} (h : serviceUrlOf electionConfig service = .ok url) :
    truthy url = true := by
  rcases electionConfig with _ | c
  · cases h
  have hchecks := validationErrors_eq_nil_iff.mp (validateElectionConfig_ok_iff_nil.mp (hv c rfl))
  simp only [configChecks, List.forall_mem_cons] at hchecks
  have hurl : truthy ((c.services.bind service).bind Service.url) = true := by
    rcases hs with rfl | rfl
    · exact containsServiceField_iff.mp hchecks.2.2.2.1
    · exact containsServiceField_iff.mp hchecks.1
  rcases hsvc : c.services.bind service with _ | svc <;> simp [serviceUrlOf, hsvc] at h
  simpa [hsvc, h] using hurl

/-! ## What each method does -/

theorem initializeClient_ok {ec : Option ElectionConfig} {response} {u : Unit}
    (h : initializeClient ec response w = .ok u w') :
    ∃ c, validateElectionConfig c = .ok () ∧
      w'.state = { w.state with electionConfig := some c } := by
  unfold initializeClient at h
  rcases ec with _ | c
  · rcases hf : fetchElectionConfig response w with c | e <;>
      simp only [bind_apply, hf, reduceCtorEq] at h
    obtain ⟨-, -, -, rfl⟩ := fetchElectionConfig_ok_iff.mp hf
    rcases hv : validateElectionConfig c with _ | _ <;> simp [hv] at h
    exact ⟨c, hv, by rw [← h]⟩
  · rcases hv : validateElectionConfig c with _ | _ <;> simp [hv] at h
    exact ⟨c, hv, by rw [← h]⟩

theorem initializeClient_error {ec : Option ElectionConfig} {response}
    (h : initializeClient ec response w = .error e w') : w'.state = w.state := by
  unfold initializeClient at h
  rcases ec with _ | c
  · rcases hf : fetchElectionConfig response w with c | e <;> simp only [bind_apply, hf] at h
    · obtain ⟨-, -, -, rfl⟩ := fetchElectionConfig_ok_iff.mp hf
      rcases hv : validateElectionConfig c with _ | _ <;> simp [hv] at h
      rw [← h.2]; rfl
    · simp only [EStateM.Result.error.injEq] at h
      rw [← h.2, fetchElectionConfig_error hf]; rfl
  · rcases hv : validateElectionConfig c with _ | _ <;> simp [hv] at h
    rw [← h.2]

theorem getAuthorizationMethod_settled (w : World AVClient) :
    settled (getAuthorizationMethod w) = w := by
  unfold getAuthorizationMethod
  rcases hc : w.state.electionConfig with _ | c
  · simp [loadedConfig, hc]
  · simp only [bind_apply, getElectionConfig_apply, hc, loadedConfig, ofExcept_ok]
    split_ifs <;> rfl

theorem authenticateWithCodes_ok {codes : List JsString} {response} {u : Unit}
    (h : authenticateWithCodes codes response w = .ok u w') :
    ∃ r, response = .ok r ∧ w'.state = { w.state with
      voterIdentifier := r.voterIdentifier, keyPair := r.keyPair,
      emptyCryptograms := r.emptyCryptograms } := by
  unfold authenticateWithCodes electionId electionEncryptionKey at h
  rcases hc : w.state.electionConfig with _ | c <;> rcases response with e | r <;>
    simp [loadedConfig, hc] at h
  exact ⟨r, rfl, by rw [← h]; simp [hc]⟩

theorem authenticateWithCodes_error {codes : List JsString} {response}
    (h : authenticateWithCodes codes response w = .error e w') : w'.state = w.state := by
  unfold authenticateWithCodes electionId electionEncryptionKey at h
  rcases hc : w.state.electionConfig with _ | c <;> rcases response with e | r <;>
    simp [loadedConfig, hc] at h <;> exact h.2 ▸ rfl

/-- A resolved `requestAccessCode` sent `createSession` with the email to the configured
coordinator, and stored the session id it answered and the email. -/
theorem requestAccessCode_ok {opaqueVoterId email : JsString} {response} {u : Unit}
    (h : requestAccessCode opaqueVoterId email response w = .ok u w') :
    ∃ url d, serviceUrlOf w.state.electionConfig Services.voter_authorizer = .ok url ∧
      response = .ok (some d) ∧
      w' = ⟨{ w.state with authorizationSessionId := d.sessionId, email := some email },
        w.calls ++ [.createSession url opaqueVoterId email]⟩ := by
  unfold requestAccessCode at h
  rcases hu : serviceUrlOf w.state.electionConfig Services.voter_authorizer with e | url <;>
    rcases response with e' | _ | d <;> simp [hu] at h
  exact ⟨url, d, rfl, rfl, by rw [← h]⟩

theorem requestAccessCode_error {opaqueVoterId email : JsString} {response}
    (h : requestAccessCode opaqueVoterId email response w = .error e w') : w'.state = w.state := by
  unfold requestAccessCode at h
  rcases hu : serviceUrlOf w.state.electionConfig Services.voter_authorizer with e | url <;>
    rcases response with e' | _ | d <;> simp [hu] at h <;> exact h.2 ▸ rfl

/-- Without a truthy `email`, `validateAccessCode` throws its `InvalidStateError` before any
request, leaving everything as it was. -/
theorem validateAccessCode_of_not_requested {code : JsString} {response}
    (h : truthy w.state.email = false) :
    validateAccessCode code response w = .error (.invalidState accessCodeNotRequested) w := by
  simp [validateAccessCode, truthyValue_eq_none.mpr h]

/-- A resolved `validateAccessCode` sent the stored email with the code to the configured OTP
provider, and stored the identity confirmation token it answered. -/
theorem validateAccessCode_ok {code : JsString} {response} {u : Unit}
    (h : validateAccessCode code response w = .ok u w') :
    ∃ email url t, truthyValue w.state.email = some email ∧
      serviceUrlOf w.state.electionConfig Services.otp_provider = .ok url ∧ response = .ok t ∧
      w' = ⟨{ w.state with identityConfirmationToken := t },
        w.calls ++ [.requestOTPAuthorization url code email]⟩ := by
  unfold validateAccessCode at h
  rcases ht : truthyValue w.state.email with _ | email
  · simp [ht] at h
  rcases hu : serviceUrlOf w.state.electionConfig Services.otp_provider with e | url <;>
    rcases response with e' | t <;> simp [ht, hu] at h
  exact ⟨email, url, t, rfl, rfl, rfl, by rw [← h]⟩

theorem validateAccessCode_error {code : JsString} {response}
    (h : validateAccessCode code response w = .error e w') : w'.state = w.state := by
  unfold validateAccessCode at h
  rcases ht : truthyValue w.state.email with _ | email
  · simp [ht] at h
    rw [← h.2]
  rcases hu : serviceUrlOf w.state.electionConfig Services.otp_provider with e | url <;>
    rcases response with e' | t <;> simp [ht, hu] at h <;> exact h.2 ▸ rfl

/-- Without a truthy identity confirmation token, `registerVoter` throws its
`InvalidStateError` before any write or request. -/
theorem registerVoter_of_not_validated {kp : KeyPair} {auth reg}
    (h : truthy w.state.identityConfirmationToken = false) :
    registerVoter kp auth reg w = .error (.invalidState identityNotConfirmed) w := by
  simp [registerVoter, truthyValue_eq_none.mpr h]

theorem registerVoter_ok {kp : KeyPair} {auth reg} {u : Unit}
    (h : registerVoter kp auth reg w = .ok u w') :
    truthy w.state.identityConfirmationToken = true ∧ ∃ r, reg = .ok r ∧
      w'.state = { w.state with
        keyPair := some kp, voterIdentifier := r.voterIdentifier,
        emptyCryptograms := r.emptyCryptograms, contestIds := r.contestIds } := by
  unfold registerVoter at h
  rcases ht : truthyValue w.state.identityConfirmationToken with _ | token
  · simp [ht] at h
  refine ⟨(truthyValue_eq_some.mp ht).2, ?_⟩
  simp only [ht, bind_apply, fields_apply, write_apply, serviceUrl_apply,
    getElectionConfig_apply] at h
  rcases hu : serviceUrlOf w.state.electionConfig Services.voter_authorizer with e' | url
  · simp [hu] at h
  rcases auth with e' | _ | data
  · simp [hu] at h
  · simp [hu] at h
  rcases hc : loadedConfig w.state.electionConfig with e' | c
  · simp [hu, hc] at h
  rcases reg with e' | r
  · simp [hu, hc] at h
  · simp [hu, hc] at h
    exact ⟨r, rfl, by rw [← h]⟩

/-- **The write before the awaits.** A `registerVoter` that rejects after its guard keeps the
key pair it assigned before its first `await`; it changes no other field. -/
theorem registerVoter_error {kp : KeyPair} {auth reg}
    (h : registerVoter kp auth reg w = .error e w') :
    w'.state = w.state ∨ truthy w.state.identityConfirmationToken = true ∧
      w'.state = { w.state with keyPair := some kp } := by
  unfold registerVoter at h
  rcases ht : truthyValue w.state.identityConfirmationToken with _ | token
  · simp [ht] at h
    exact .inl (by rw [← h.2])
  refine .inr ⟨(truthyValue_eq_some.mp ht).2, ?_⟩
  simp only [ht, bind_apply, fields_apply, write_apply, serviceUrl_apply,
    getElectionConfig_apply] at h
  rcases hu : serviceUrlOf w.state.electionConfig Services.voter_authorizer with e' | url
  · simp [hu] at h; exact h.2 ▸ rfl
  rcases auth with e' | _ | data
  · simp [hu] at h; exact h.2 ▸ rfl
  · simp [hu] at h; exact h.2 ▸ rfl
  rcases hc : loadedConfig w.state.electionConfig with e' | c
  · simp [hu, hc] at h; exact h.2 ▸ rfl
  rcases reg with e' | r
  · simp [hu, hc] at h; exact h.2 ▸ rfl
  · simp [hu, hc] at h

/-- Without a truthy voter identifier, empty cryptograms or contest ids,
`constructBallotCryptograms` throws its `InvalidStateError`. -/
theorem constructBallotCryptograms_of_unregistered {encryptVotes : EncryptVotes}
    {cvr : ContestMap JsString} (hv : truthy w.state.voterIdentifier = false)
    (he : w.state.emptyCryptograms = none) (hc : w.state.contestIds = none) :
    constructBallotCryptograms encryptVotes cvr w =
      .error (.invalidState registrationNotCompleted) w := by
  simp [constructBallotCryptograms, constructionGuard, hv, he, hc]

/-- **Ballot construction.** `constructBallotCryptograms` resolves exactly when its guard
passes, a configuration is loaded, `validateCvr` answers `:okay` and every contest of the CVR
has an empty cryptogram and a ballot; it then stores the envelopes, makes no request, and
resolves with the fingerprint of their cryptograms. -/
theorem constructBallotCryptograms_ok_iff {encryptVotes : EncryptVotes}
    {cvr : ContestMap JsString} {code : JsString} :
    constructBallotCryptograms encryptVotes cvr w = .ok code w' ↔
      constructionGuard w.state = true ∧
      ∃ c E, w.state.electionConfig = some c ∧ validateCvr cvr c.ballots = .okay ∧
        encryptBallot encryptVotes cvr w.state.emptyCryptograms c = .ok E ∧
        encryptVotes.fingerprint (extractCryptograms E) = code ∧
        ⟨{ w.state with voteEncryptions := some E }, w.calls⟩ = w' := by
  simp only [constructBallotCryptograms, bind_apply, fields_apply, getElectionConfig_apply]
  cases hg : constructionGuard w.state
  · simp
  rcases hc : w.state.electionConfig with _ | c
  · simp [hc, loadedConfig]
  simp only [hc, loadedConfig, check_true, ofExcept_ok, true_and, Option.some.injEq,
    exists_and_left, exists_eq_left']
  rcases hv : validateCvr cvr c.ballots
  · simp [checkCvr]
  · simp [checkCvr]
  rcases he : encryptBallot encryptVotes cvr w.state.emptyCryptograms c with e | E <;>
    simp [checkCvr, hc]

theorem constructBallotCryptograms_error {encryptVotes : EncryptVotes}
    {cvr : ContestMap JsString} (h : constructBallotCryptograms encryptVotes cvr w = .error e w') :
    w' = w := by
  simp only [constructBallotCryptograms, bind_apply, fields_apply, getElectionConfig_apply] at h
  cases hg : constructionGuard w.state <;> simp only [hg, check_true, check_false] at h
  · exact (EStateM.Result.error.inj h).2.symm
  rcases hc : w.state.electionConfig with _ | c <;>
    simp only [hc, loadedConfig, ofExcept_ok, ofExcept_error] at h
  · exact (EStateM.Result.error.inj h).2.symm
  rcases hv : validateCvr cvr c.ballots <;>
    simp only [hv, checkCvr, ofExcept_ok, ofExcept_error] at h
  · exact (EStateM.Result.error.inj h).2.symm
  · exact (EStateM.Result.error.inj h).2.symm
  rcases he : encryptBallot encryptVotes cvr w.state.emptyCryptograms c with e | E <;>
    simp only [he, ofExcept_ok, ofExcept_error, write_apply, pure_apply, reduceCtorEq] at h
  exact (EStateM.Result.error.inj h).2.symm

/-- **The unguarded lookup.** Past its guard and `validateCvr`, `constructBallotCryptograms`
rejects with a `TypeError` when the CVR names a contest for which the session holds no empty
cryptogram, whatever the voter's contest ids. -/
theorem constructBallotCryptograms_unissued {encryptVotes : EncryptVotes}
    {cvr : ContestMap JsString} {c : ElectionConfig} {k : JsString}
    (hg : constructionGuard w.state = true) (hc : w.state.electionConfig = some c)
    (hv : validateCvr cvr c.ballots = .okay) (hk : k ∈ cvr.keys)
    (hmiss : w.state.emptyCryptograms.bind (·.get? k) = none) :
    constructBallotCryptograms encryptVotes cvr w = .error .typeError w := by
  simp [constructBallotCryptograms, hg, hc, hv, loadedConfig, checkCvr,
    encryptBallot_unissued hk hmiss]

/-- **Submission never resolves.** `submitBallotCryptograms` rejects in every state, without a
request and without a write: with its `InvalidStateError` when its guard fails, with
`getElectionConfig`'s when no configuration is loaded, and otherwise with the `TypeError` of
`this.keyPair.privateKey` or of the call of `encryptAffidavit`. -/
theorem submitBallotCryptograms_error (affidavit : JsString) (w : World AVClient) :
    submitBallotCryptograms affidavit w = .error
      (if submissionGuard w.state = false then
        .invalidState cannotSubmitCryptograms
      else if w.state.electionConfig = none then .invalidState noConfigurationLoaded
      else .typeError) w := by
  simp only [submitBallotCryptograms, electionId, privateKey, electionSigningPublicKey,
    affidavitConfig, encryptAffidavit, bind_apply, fields_apply, getElectionConfig_apply]
  cases hg : submissionGuard w.state
  · rfl
  rcases hc : w.state.electionConfig with _ | c
  · simp [hc, loadedConfig]
  cases hk : w.state.keyPair <;> simp [hc, hk, loadedConfig]

end Methods


end AVClient

end AvClient
