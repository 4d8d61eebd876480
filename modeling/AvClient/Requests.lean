import AvClient.Lifecycle

/-!
# The requests a session sends

A session talks to three collaborators: the bulletin board, the voter authorization
coordinator and the OTP provider. The world logs every request with the arguments sent
(`World.calls`). `Sends` says once what one call of a public method can send, each request
under the condition its method checks before sending it; every fact about the log below is
derived from it (`Op.run_sends`), by induction over the run.

The voter authorization protocol the client is written for orders its requests: a session is
created for an email, the OTP sent to that email is authorized, the public key of a new key
pair is authorized with the identity confirmation token, and the key pair is registered on the
board. `allowedAfter` states that order over the log; a log in which every request is allowed
by the ones before it follows the protocol (`followsProtocol`).

## Main results

* `Op.run_sends` — the step lemma for requests: what a call adds to the log.
* `requests_follow_protocol` — in every run from a new client the requests follow the
  authorization protocol.
* `no_vote_submission_sent` — no run from a new client ever sends the board hash request or the
  vote submission of `signAndSubmitVotes`: no vote reaches the board.
* `publicKeyAuthorization_carries_last_answers` — the public key authorization carries the
  session id and the token answered to the last resolved `requestAccessCode` and
  `validateAccessCode`, which need not be of one session.
* `service_requests_have_url` — every request to the coordinator or the OTP provider goes to a
  non-empty URL of a validated configuration.
* `invalidState_changes_nothing` — in every run from a new client, a call rejected with an
  `InvalidStateError` sends no request and writes no field.
-/

namespace AvClient

open Json Async SubmitVotes AVClient

/-! ## What one call can send -/

/-- What one call can send, under the condition its method checks before sending it: nothing;
the configuration request of `initialize` when it is given no configuration; the
authentication of `authenticateWithCodes`; `createSession` to the configured coordinator; the
OTP authorization of the stored email by the configured provider; the authorization of the new
key pair's public key, and, once the coordinator answered, the board registration of that key
pair. -/
inductive Sends : Op → AVClient → List Call → Prop where
  | nothing (op : Op) (s : AVClient) : Sends op s []
  | fetchConfig {response} (s : AVClient) :
      Sends (.initializeClient none response) s [.getElectionConfig]
  | authenticate {codes response} (s : AVClient) (c : ElectionConfig) :
      s.electionConfig = some c →
      Sends (.authenticateWithCodes codes response) s
        [.authenticate codes c.election.id c.encryptionKey]
  | createSession {opaqueVoterId email response} (s : AVClient) (url : Option JsString) :
      serviceUrlOf s.electionConfig Services.voter_authorizer = .ok url →
      Sends (.requestAccessCode opaqueVoterId email response) s
        [.createSession url opaqueVoterId email]
  | authorizeOTP {code response} (s : AVClient) (url : Option JsString) (email : JsString) :
      truthyValue s.email = some email →
      serviceUrlOf s.electionConfig Services.otp_provider = .ok url →
      Sends (.validateAccessCode code response) s [.requestOTPAuthorization url code email]
  | authorizePublicKey {keyPair authorization registration} (s : AVClient)
      (url : Option JsString) (token : JsString) :
      truthyValue s.identityConfirmationToken = some token →
      serviceUrlOf s.electionConfig Services.voter_authorizer = .ok url →
      Sends (.registerVoter keyPair authorization registration) s
        [.requestPublicKeyAuthorization url s.authorizationSessionId token keyPair.publicKey]
  | register {keyPair authorization registration} (s : AVClient) (url : Option JsString)
      (token : JsString) (data : PublicKeyAuthorization) (c : ElectionConfig) :
      truthyValue s.identityConfirmationToken = some token →
      serviceUrlOf s.electionConfig Services.voter_authorizer = .ok url →
      authorization = .ok (some data) → s.electionConfig = some c →
      Sends (.registerVoter keyPair authorization registration) s
        [.requestPublicKeyAuthorization url s.authorizationSessionId token keyPair.publicKey,
         .registerVoter keyPair c.encryptionKey data.registrationToken data.publicKeyToken]

section Methods

variable (w : World AVClient)

theorem initializeClient_sends (electionConfig : Option ElectionConfig)
    (response : Except JsString (Option ElectionConfig)) :
    ∃ sent, Sends (.initializeClient electionConfig response) w.state sent ∧
      (settled (initializeClient electionConfig response w)).calls = w.calls ++ sent := by
  rcases electionConfig with _ | c
  · refine ⟨_, .fetchConfig _, ?_⟩
    rcases response with e | _ | c
    · simp [initializeClient, fetchElectionConfig]
    · simp [initializeClient, fetchElectionConfig]
    · rcases hv : validateElectionConfig { c with affidavit := some fetchedAffidavit } <;>
        simp [initializeClient, fetchElectionConfig, hv]
  · refine ⟨[], .nothing _ _, ?_⟩
    rcases hv : validateElectionConfig c <;> simp [initializeClient, hv]

theorem authenticateWithCodes_sends (codes : List JsString)
    (response : Except JsString AuthenticationResponse) :
    ∃ sent, Sends (.authenticateWithCodes codes response) w.state sent ∧
      (settled (authenticateWithCodes codes response w)).calls = w.calls ++ sent := by
  rcases hc : w.state.electionConfig with _ | c
  · exact ⟨[], .nothing _ _,
      by simp [authenticateWithCodes, electionId, electionEncryptionKey, hc, loadedConfig]⟩
  · refine ⟨_, .authenticate _ c hc, ?_⟩
    rcases response <;> simp [authenticateWithCodes, electionId, electionEncryptionKey, hc,
      loadedConfig]

theorem requestAccessCode_sends (opaqueVoterId email : JsString)
    (response : Except JsString (Option SessionData)) :
    ∃ sent, Sends (.requestAccessCode opaqueVoterId email response) w.state sent ∧
      (settled (requestAccessCode opaqueVoterId email response w)).calls = w.calls ++ sent := by
  rcases hu : serviceUrlOf w.state.electionConfig Services.voter_authorizer with e | url
  · exact ⟨[], .nothing _ _, by simp [requestAccessCode, hu]⟩
  · refine ⟨_, .createSession _ url hu, ?_⟩
    rcases response with e | _ | d <;> simp [requestAccessCode, hu]

theorem validateAccessCode_sends (code : JsString) (response : Except JsString (Option JsString)) :
    ∃ sent, Sends (.validateAccessCode code response) w.state sent ∧
      (settled (validateAccessCode code response w)).calls = w.calls ++ sent := by
  rcases he : truthyValue w.state.email with _ | email
  · exact ⟨[], .nothing _ _, by simp [validateAccessCode, he]⟩
  rcases hu : serviceUrlOf w.state.electionConfig Services.otp_provider with e | url
  · exact ⟨[], .nothing _ _, by simp [validateAccessCode, he, hu]⟩
  · refine ⟨_, .authorizeOTP _ url email he hu, ?_⟩
    rcases response <;> simp [validateAccessCode, he, hu]

theorem registerVoter_sends (keyPair : KeyPair)
    (authorization : Except JsString (Option PublicKeyAuthorization))
    (registration : Except JsString RegisterVoterResponse) :
    ∃ sent, Sends (.registerVoter keyPair authorization registration) w.state sent ∧
      (settled (registerVoter keyPair authorization registration w)).calls = w.calls ++ sent := by
  rcases ht : truthyValue w.state.identityConfirmationToken with _ | token
  · exact ⟨[], .nothing _ _, by simp [registerVoter, ht]⟩
  rcases hu : serviceUrlOf w.state.electionConfig Services.voter_authorizer with e | url
  · exact ⟨[], .nothing _ _, by simp [registerVoter, ht, hu]⟩
  rcases authorization with e | _ | data
  · exact ⟨_, .authorizePublicKey _ url token ht hu, by simp [registerVoter, ht, hu]⟩
  · exact ⟨_, .authorizePublicKey _ url token ht hu, by simp [registerVoter, ht, hu]⟩
  rcases hc : w.state.electionConfig with _ | c
  · simp [serviceUrlOf, hc] at hu
  · refine ⟨_, .register _ url token data c ht hu rfl hc, ?_⟩
    rw [hc] at hu
    rcases registration <;> simp [registerVoter, ht, hu, hc, loadedConfig]

end Methods

/-- **The step lemma for requests.** Whatever its collaborators answer, a call adds to the log
what one of `Sends`'s cases says. -/
theorem Op.run_sends (op : Op) (w : World AVClient) :
    ∃ sent, Sends op w.state sent ∧ (settled (op.run w)).calls = w.calls ++ sent := by
  cases op with
  | initializeClient ec response =>
    simpa only [Op.run, settled_map] using initializeClient_sends w ec response
  | authenticateWithCodes codes response =>
    simpa only [Op.run, settled_map] using authenticateWithCodes_sends w codes response
  | requestAccessCode opaqueVoterId email response =>
    simpa only [Op.run, settled_map] using requestAccessCode_sends w opaqueVoterId email response
  | validateAccessCode code response =>
    simpa only [Op.run, settled_map] using validateAccessCode_sends w code response
  | registerVoter keyPair authorization registration =>
    simpa only [Op.run, settled_map] using registerVoter_sends w keyPair authorization registration
  | getElectionConfig =>
    refine ⟨[], .nothing _ _, ?_⟩
    rcases hc : w.state.electionConfig <;> simp [Op.run, hc, loadedConfig]
  | getAuthorizationMethod =>
    refine ⟨[], .nothing _ _, ?_⟩
    rw [Op.run, settled_map, getAuthorizationMethod_settled, List.append_nil]
  | constructBallotCryptograms encryptVotes cvr =>
    refine ⟨[], .nothing _ _, ?_⟩
    rw [Op.run, settled_map, List.append_nil]
    rcases h : AVClient.constructBallotCryptograms encryptVotes cvr w with code | e
    · obtain ⟨-, -, -, -, -, -, -, rfl⟩ := constructBallotCryptograms_ok_iff.mp h
      rfl
    · rw [constructBallotCryptograms_error h]; rfl
  | generateTestCode testCode =>
    exact ⟨[], .nothing _ _, by simp [Op.run, AVClient.generateTestCode]⟩
  | spoilBallotCryptograms =>
    exact ⟨[], .nothing _ _, by simp [Op.run, AVClient.spoilBallotCryptograms]⟩
  | submitBallotCryptograms affidavit =>
    exact ⟨[], .nothing _ _, by simp [Op.run, submitBallotCryptograms_error]⟩
  | purgeData => exact ⟨[], .nothing _ _, by simp [Op.run, AVClient.purgeData]⟩

/-- A property of the world that every call keeps holds all along a run. -/
theorem runOps_world_invariant (P : World AVClient → Prop)
    (hstep : ∀ (op : Op) w, P w → P (settled (op.run w))) (w : World AVClient) (ops : List Op)
    (h : P w) : P (runOps w ops) := by
  induction ops generalizing w with
  | nil => exact h
  | cons op ops ih => exact ih _ (hstep op w h)

/-! ## No vote reaches the board -/

/-- Whether a request belongs to the vote submission of `signAndSubmitVotes`: the board hash
request or the submission of the votes. -/
def Call.submitsVote : Call → Bool
  | .getBoardHash | .submitVotes .. => true
  | _ => false

theorem Sends.not_submitsVote {op : Op} {s : AVClient} {sent : List Call} (h : Sends op s sent) :
    sent.any Call.submitsVote = false := by
  cases h <;> rfl

/-- **No vote reaches the board.** In every run from a new client, whatever the calls and
whatever the collaborators answer, the client never requests the board hash and never submits
votes: `submitBallotCryptograms` rejects before `signAndSubmitVotes`
(`submitBallotCryptograms_error`), and no other method sends either request. -/
theorem no_vote_submission_sent (ops : List Op) :
    (runOps initialWorld ops).calls.any Call.submitsVote = false := by
  refine runOps_world_invariant (fun w => w.calls.any Call.submitsVote = false)
    (fun op w hw => ?_) initialWorld ops rfl
  obtain ⟨sent, hsent, hcalls⟩ := Op.run_sends op w
  simp only [hcalls, List.any_append, hw, hsent.not_submitsVote, Bool.or_false]

/-! ## The authorization protocol -/

/-- Whether a request is the `createSession` of `email`. -/
def Call.opensSessionFor (email : JsString) : Call → Bool
  | .createSession _ _ email' => email' == email
  | _ => false

/-- Whether a request is an OTP authorization. -/
def Call.isOTPAuthorization : Call → Bool
  | .requestOTPAuthorization .. => true
  | _ => false

/-- Whether a request is the authorization of `publicKey`. -/
def Call.authorizesKey (publicKey : JsString) : Call → Bool
  | .requestPublicKeyAuthorization _ _ _ publicKey' => publicKey' == publicKey
  | _ => false

/-- Whether the authorization protocol allows a request after the requests `sent`: an OTP
authorization of an email only after a `createSession` for it, an authorization of a public
key only after an OTP authorization, and a board registration of a key pair only right after
the authorization of its public key. The protocol constrains no other request. -/
def allowedAfter (sent : List Call) : Call → Bool
  | .requestOTPAuthorization _ _ email => sent.any (Call.opensSessionFor email)
  | .requestPublicKeyAuthorization .. => sent.any Call.isOTPAuthorization
  | .registerVoter keyPair .. =>
    (sent.getLast?.map (Call.authorizesKey keyPair.publicKey)).getD false
  | _ => true

/-- Whether each request of `calls` is allowed after `sent` and the requests before it. -/
def followsProtocol (sent : List Call) : List Call → Bool
  | [] => true
  | c :: calls => allowedAfter sent c && followsProtocol (sent ++ [c]) calls

theorem followsProtocol_append (sent calls calls' : List Call) :
    followsProtocol sent (calls ++ calls') =
      (followsProtocol sent calls && followsProtocol (sent ++ calls) calls') := by
  induction calls generalizing sent with
  | nil => simp [followsProtocol]
  | cons c calls ih => simp [followsProtocol, ih, Bool.and_assoc]

/-- The reading of `followsProtocol`: every request of the log is allowed after the ones
before it. -/
theorem followsProtocol_iff {sent calls : List Call} :
    followsProtocol sent calls = true ↔
      ∀ pre c post, calls = pre ++ c :: post → allowedAfter (sent ++ pre) c = true := by
  induction calls generalizing sent with
  | nil => simp [followsProtocol]
  | cons d calls ih =>
    simp only [followsProtocol, Bool.and_eq_true, ih]
    constructor
    · rintro ⟨hd, hrest⟩ pre c post h
      rcases pre with _ | ⟨p, pre⟩
      · obtain ⟨rfl, rfl⟩ := List.cons_eq_cons.mp h
        simpa using hd
      · obtain ⟨rfl, rfl⟩ := List.cons_eq_cons.mp h
        simpa using hrest pre c post rfl
    · intro h
      exact ⟨by simpa using h [] d calls rfl,
        fun pre c post hc => by simpa using h (d :: pre) c post (by simp [hc])⟩

-- An OTP authorization for an email no session was created for breaks the protocol.
example : followsProtocol [.createSession none (.ofString "v") (.ofString "a")]
    [.requestOTPAuthorization none (.ofString "1234") (.ofString "b")] = false := by decide

/-- What the session's fields owe to the requests sent so far: a stored email was sent in a
`createSession`, a stored identity confirmation token answered an OTP authorization, and the
log follows the protocol. -/
structure Requested (w : World AVClient) : Prop where
  email_sent : ∀ email, w.state.email = some email → w.calls.any (Call.opensSessionFor email)
  token_sent : ∀ token, w.state.identityConfirmationToken = some token →
    w.calls.any Call.isOTPAuthorization
  protocol : followsProtocol [] w.calls = true

section Step

variable {w : World AVClient}

/-- A call sends only what the protocol allows, given what the stored email and token owe. -/
theorem Sends.protocol_allows {op : Op} {sent : List Call} (h : Sends op w.state sent)
    (hw : Requested w) : followsProtocol w.calls sent = true := by
  cases h with
  | authorizeOTP s url email he _ =>
    simp [followsProtocol, allowedAfter, hw.email_sent email (truthyValue_eq_some.mp he).1]
  | authorizePublicKey s url token ht _ =>
    simp [followsProtocol, allowedAfter, hw.token_sent token (truthyValue_eq_some.mp ht).1]
  | register s url token data c ht _ _ _ =>
    simp [followsProtocol, allowedAfter, Call.authorizesKey,
      hw.token_sent token (truthyValue_eq_some.mp ht).1]
  | _ => simp [followsProtocol, allowedAfter]

/-- A call that changes the stored email is a `requestAccessCode` that sent `createSession`
with the new email. -/
theorem Op.run_email_sent {op : Op} {email : JsString}
    (hch : (settled (op.run w)).state.email ≠ w.state.email)
    (he : (settled (op.run w)).state.email = some email) :
    (settled (op.run w)).calls.any (Call.opensSessionFor email) := by
  obtain ⟨opaqueVoterId, email', response, rfl⟩ := (Op.run_effect op w).email_changed hch
  rcases hr : AVClient.requestAccessCode opaqueVoterId email' response w with u | e
  · obtain ⟨url, d, -, -, rfl⟩ := requestAccessCode_ok hr
    simp only [Op.run, settled_map, hr, settled_ok, Option.some_inj] at he ⊢
    simp [Call.opensSessionFor, he]
  · simp [Op.run, hr, requestAccessCode_error hr] at hch

/-- A call that changes the stored token is a `validateAccessCode` that sent an OTP
authorization. -/
theorem Op.run_token_sent {op : Op}
    (hch : (settled (op.run w)).state.identityConfirmationToken ≠
      w.state.identityConfirmationToken) :
    (settled (op.run w)).calls.any Call.isOTPAuthorization := by
  obtain ⟨code, response, rfl⟩ := (Op.run_effect op w).identityConfirmationToken_changed hch
  rcases hr : AVClient.validateAccessCode code response w with u | e
  · obtain ⟨_, url, _, -, -, -, rfl⟩ := validateAccessCode_ok hr
    simp [Op.run, hr, Call.isOTPAuthorization]
  · simp [Op.run, hr, validateAccessCode_error hr] at hch

/-- Every call keeps `Requested`. -/
theorem Requested.step (hw : Requested w) (op : Op) : Requested (settled (op.run w)) := by
  obtain ⟨sent, hsent, hcalls⟩ := Op.run_sends op w
  refine ⟨fun email he => ?_, fun token ht => ?_, ?_⟩
  · by_cases hch : (settled (op.run w)).state.email = w.state.email
    · simp [hcalls, hw.email_sent email (hch ▸ he)]
    · exact Op.run_email_sent hch he
  · by_cases hch : (settled (op.run w)).state.identityConfirmationToken =
        w.state.identityConfirmationToken
    · simp [hcalls, hw.token_sent token (hch ▸ ht)]
    · exact Op.run_token_sent hch
  · rw [hcalls, followsProtocol_append, hw.protocol, Bool.true_and, List.nil_append]
    exact hsent.protocol_allows hw

end Step

/-- **The requests follow the authorization protocol.** In every run from a new client,
whatever the calls and whatever the collaborators answer, the OTP provider is asked to
authorize an email only after the coordinator was asked to open a session for it, the
coordinator is asked to authorize a public key only after an OTP authorization, and the board
is asked to register a key pair only right after the authorization of its public key. -/
theorem requests_follow_protocol (ops : List Op) :
    followsProtocol [] (runOps initialWorld ops).calls = true :=
  (runOps_world_invariant Requested (fun op _ hw => hw.step op) initialWorld ops
    ⟨by simp [initialWorld, AVClient.new], by simp [initialWorld, AVClient.new], rfl⟩).protocol

/-! ## What the public key authorization carries -/

/-- **The public key authorization carries the last answers.** In every run from a new client,
whatever the collaborators answer, when `registerVoter` asks the coordinator to authorize a
public key, the identity confirmation token it sends is the one answered to the last
`validateAccessCode` that resolved, and the session id it sends is the one answered to the last
`requestAccessCode` that resolved. The two need not belong to one session: a
`requestAccessCode` after the `validateAccessCode` replaces the session id and keeps the
token. -/
theorem publicKeyAuthorization_carries_last_answers (ops : List Op) {op : Op} {sent : List Call}
    (hs : Sends op (runOps initialWorld ops).state sent)
    {url sessionId : Option JsString} {token publicKey : JsString}
    (hc : Call.requestPublicKeyAuthorization url sessionId token publicKey ∈ sent) :
    (∃ (pre : List Op) (tokenCall : Op) (post : List Op),
      ops = pre ++ tokenCall :: post ∧
      tokenCall.stored Op.tokenAnswer (runOps initialWorld pre) = some (some token) ∧
      NoneStored Op.tokenAnswer (runOps initialWorld (pre ++ [tokenCall])) post) ∧
    ∃ (pre : List Op) (sessionCall : Op) (post : List Op) (email : JsString),
      ops = pre ++ sessionCall :: post ∧
      sessionCall.stored Op.sessionAnswer (runOps initialWorld pre) = some (sessionId, some email) ∧
      NoneStored Op.sessionAnswer (runOps initialWorld (pre ++ [sessionCall])) post := by
  have hsent : sessionId = (runOps initialWorld ops).state.authorizationSessionId ∧
      (runOps initialWorld ops).state.identityConfirmationToken = some token := by
    cases hs with
    | authorizePublicKey s url' token' ht _ =>
      obtain ⟨-, rfl, rfl, -⟩ := by simpa using hc
      exact ⟨rfl, (truthyValue_eq_some.mp ht).1⟩
    | register s url' token' data c ht _ _ _ =>
      obtain ⟨-, rfl, rfl, -⟩ := by simpa using hc
      exact ⟨rfl, (truthyValue_eq_some.mp ht).1⟩
    | _ => simp at hc
  obtain ⟨rfl, htoken⟩ := hsent
  constructor
  · rcases runOps_lastAnswer _ _ Op.run_identityConfirmationToken initialWorld ops with
      ⟨h0, -⟩ | ⟨pre, tokenCall, post, a, hops, hstored, hnone, hfin⟩
    · rw [htoken] at h0
      cases h0
    · rw [htoken] at hfin
      exact ⟨pre, tokenCall, post, hops, hfin ▸ hstored, hnone⟩
  · have hemail : (runOps initialWorld ops).state.email ≠ none :=
      email_of_identityConfirmationToken ops (by rw [htoken]; exact Option.some_ne_none _)
    rcases runOps_lastAnswer _ _ Op.run_sessionFields initialWorld ops with
      ⟨h0, -⟩ | ⟨pre, sessionCall, post, answer, hops, hstored, hnone, hfin⟩
    · exact (hemail (congrArg Prod.snd h0)).elim
    · obtain ⟨email, hem⟩ := Option.ne_none_iff_exists'.mp hemail
      refine ⟨pre, sessionCall, post, email, hops, ?_, hnone⟩
      rw [hstored, ← hfin, sessionFields, hem]

/-- A second access code requested after the first was validated. -/
def mixedSessionRun : List Op :=
  [.initializeClient (some twoContestConfig) (.ok none),
   .requestAccessCode (.ofString "voter123") (.ofString "a@foo.bar")
     (.ok (some ⟨some (.ofString "sidA")⟩)),
   .validateAccessCode (.ofString "1234") (.ok (some (.ofString "tokenA"))),
   .requestAccessCode (.ofString "voter123") (.ofString "b@foo.bar")
     (.ok (some ⟨some (.ofString "sidB")⟩))]

/-- After `mixedSessionRun`, `registerVoter` sends the session id `sidB` of the second session
with the token `tokenA` of the first. -/
theorem mixedSessionRun_carries_last_answers :
    Sends (.registerVoter keyA (.error (.ofString "network")) (.ok contestOneRegistration))
        (runOps initialWorld mixedSessionRun).state
        [.requestPublicKeyAuthorization (some (.ofString "u")) (some (.ofString "sidB"))
          (.ofString "tokenA") (.ofString "A")] ∧
      Call.requestPublicKeyAuthorization (some (.ofString "u")) (some (.ofString "sidB"))
          (.ofString "tokenA") (.ofString "A") ∈
        [.requestPublicKeyAuthorization (some (.ofString "u")) (some (.ofString "sidB"))
          (.ofString "tokenA") (.ofString "A")] ∧
      (∃ (pre : List Op) (tokenCall : Op) (post : List Op),
        mixedSessionRun = pre ++ tokenCall :: post ∧
        tokenCall.stored Op.tokenAnswer (runOps initialWorld pre) =
          some (some (.ofString "tokenA")) ∧
        NoneStored Op.tokenAnswer (runOps initialWorld (pre ++ [tokenCall])) post) ∧
      ∃ (pre : List Op) (sessionCall : Op) (post : List Op) (email : JsString),
        mixedSessionRun = pre ++ sessionCall :: post ∧
        sessionCall.stored Op.sessionAnswer (runOps initialWorld pre) =
          some (some (.ofString "sidB"), some email) ∧
        NoneStored Op.sessionAnswer (runOps initialWorld (pre ++ [sessionCall])) post := by
  have hs : Sends (.registerVoter keyA (.error (.ofString "network")) (.ok contestOneRegistration))
      (runOps initialWorld mixedSessionRun).state
      [.requestPublicKeyAuthorization (some (.ofString "u")) (some (.ofString "sidB"))
        (.ofString "tokenA") (.ofString "A")] :=
    .authorizePublicKey _ (some (.ofString "u")) (.ofString "tokenA") rfl rfl
  exact ⟨hs, List.mem_singleton_self _,
    publicKeyAuthorization_carries_last_answers mixedSessionRun hs (List.mem_singleton_self _)⟩

/-! ## Where requests go -/

/-- The URL a request to the voter authorization coordinator or to the OTP provider is sent to;
the board's requests have none. -/
def Call.serviceUrl? : Call → Option (Option JsString)
  | .createSession url .. | .requestOTPAuthorization url ..
  | .requestPublicKeyAuthorization url .. => some url
  | _ => none

/-- While every configuration the session holds passed validation, a call sends its requests
to the coordinator and the OTP provider to non-empty URLs. -/
theorem Sends.serviceUrls_truthy {op : Op} {s : AVClient} {sent : List Call}
    (h : Sends op s sent) (hv : ConfigValid s) :
    sent.all (fun c => c.serviceUrl?.all truthy) = true := by
  cases h with
  | createSession s url hu | authorizePublicKey s url _ _ hu | register s url _ _ _ _ hu _ _ =>
    simp only [List.all_cons, List.all_nil, Call.serviceUrl?, Option.all_some, Option.all_none,
      serviceUrlOf_truthy hv (.inl rfl) hu, Bool.and_self]
  | authorizeOTP s url _ _ hu =>
    simp only [List.all_cons, List.all_nil, Call.serviceUrl?, Option.all_some,
      serviceUrlOf_truthy hv (.inr rfl) hu, Bool.and_self]
  | _ => rfl

/-- **Requests go to configured services.** In every run from a new client, whatever the calls
and whatever the collaborators answer, every request to the voter authorization coordinator or
to the OTP provider is sent to a non-empty URL: the client reads it from the loaded
configuration, and every configuration it loads passed `validateElectionConfig`. -/
theorem service_requests_have_url (ops : List Op) :
    (runOps initialWorld ops).calls.all (fun c => c.serviceUrl?.all truthy) = true := by
  refine (runOps_world_invariant
    (fun w => ConfigValid w.state ∧ w.calls.all (fun c => c.serviceUrl?.all truthy) = true)
    (fun op w hw => ?_) initialWorld ops ⟨(fun _ h => nomatch h), rfl⟩).2
  obtain ⟨sent, hsent, hcalls⟩ := Op.run_sends op w
  refine ⟨(Op.run_effect op w).configValid hw.1, ?_⟩
  rw [hcalls, List.all_append, hw.2, hsent.serviceUrls_truthy hw.1, Bool.true_and]

/-! ## Out-of-order calls

Every `InvalidStateError` of the client is thrown before its method sends a request or writes
a field, with one exception: `registerVoter` assigns the key pair before it reads the
coordinator's URL, and `getElectionConfig` throws when no configuration is loaded. That state
is not reachable: the identity confirmation token is only stored by a `validateAccessCode`
that read the OTP provider's URL from a loaded configuration, and no call unloads it. -/

section InvalidState

variable {w w' : World AVClient} {message : JsString}

theorem initializeClient_not_invalidState {ec : Option ElectionConfig} {response}
    (h : initializeClient ec response w = .error (.invalidState message) w') : False := by
  unfold initializeClient at h
  rcases ec with _ | c
  · rcases response with e | _ | c
    · simp [fetchElectionConfig] at h
    · simp [fetchElectionConfig] at h
    · rcases hv : validateElectionConfig { c with affidavit := some fetchedAffidavit }
        with e | _ <;> simp [fetchElectionConfig, hv] at h
      obtain ⟨m, rfl⟩ := validateElectionConfig_error hv
      simp at h
  · rcases hv : validateElectionConfig c with e | _ <;> simp [hv] at h
    obtain ⟨m, rfl⟩ := validateElectionConfig_error hv
    simp at h

theorem authenticateWithCodes_invalidState {codes : List JsString} {response}
    (h : authenticateWithCodes codes response w = .error (.invalidState message) w') : w' = w := by
  unfold authenticateWithCodes electionId electionEncryptionKey at h
  rcases hc : w.state.electionConfig with _ | c <;> rcases response with e | r <;>
    simp [loadedConfig, hc] at h <;> exact h.2.symm

theorem requestAccessCode_invalidState {opaqueVoterId email : JsString} {response}
    (h : requestAccessCode opaqueVoterId email response w = .error (.invalidState message) w') :
    w' = w := by
  unfold requestAccessCode at h
  rcases hu : serviceUrlOf w.state.electionConfig Services.voter_authorizer with e | url <;>
    rcases response with e' | _ | d <;> simp [hu] at h <;> exact h.2.symm

theorem validateAccessCode_invalidState {code : JsString} {response}
    (h : validateAccessCode code response w = .error (.invalidState message) w') : w' = w := by
  unfold validateAccessCode at h
  rcases ht : truthyValue w.state.email with _ | email
  · simp [ht] at h
    exact h.2.symm
  rcases hu : serviceUrlOf w.state.electionConfig Services.otp_provider with e | url <;>
    rcases response with e' | t <;> simp [ht, hu] at h <;> exact h.2.symm

theorem registerVoter_invalidState {kp : KeyPair} {auth reg}
    (hinv : w.state.electionConfig = none → w.state.identityConfirmationToken = none)
    (h : registerVoter kp auth reg w = .error (.invalidState message) w') : w' = w := by
  unfold registerVoter at h
  rcases ht : truthyValue w.state.identityConfirmationToken with _ | token
  · simp [ht] at h
    exact h.2.symm
  rcases hc : w.state.electionConfig with _ | c
  · simp [hinv hc, truthyValue] at ht
  simp only [ht, bind_apply, fields_apply, write_apply, serviceUrl_apply,
    getElectionConfig_apply, hc] at h
  rcases hs : c.services.bind Services.voter_authorizer with _ | svc
  · simp [serviceUrlOf, hs] at h
  rcases auth with e' | _ | data
  · simp [serviceUrlOf, hs] at h
  · simp [serviceUrlOf, hs] at h
  rcases reg with e' | r <;> simp [serviceUrlOf, hs, loadedConfig] at h

/-- **The step lemma for out-of-order calls.** A call that rejects with an
`InvalidStateError`, in a state where a stored token comes with a loaded configuration, sends no
request and writes no field. -/
theorem Op.run_invalidState {op : Op}
    (hinv : w.state.electionConfig = none → w.state.identityConfirmationToken = none)
    (h : op.run w = .error (.invalidState message) w') : w' = w := by
  cases op <;> simp only [Op.run, map_eq_error] at h
  case initializeClient => exact (initializeClient_not_invalidState h).elim
  case getElectionConfig =>
    rcases hc : w.state.electionConfig <;> simp [loadedConfig, hc] at h
    exact h.2.symm
  case getAuthorizationMethod =>
    have hs := getAuthorizationMethod_settled w
    rwa [h] at hs
  case authenticateWithCodes => exact authenticateWithCodes_invalidState h
  case requestAccessCode => exact requestAccessCode_invalidState h
  case validateAccessCode => exact validateAccessCode_invalidState h
  case registerVoter => exact registerVoter_invalidState hinv h
  case constructBallotCryptograms => exact constructBallotCryptograms_error h
  case generateTestCode => simp [AVClient.generateTestCode] at h
  case spoilBallotCryptograms => simp [AVClient.spoilBallotCryptograms] at h
  case submitBallotCryptograms =>
    simp [submitBallotCryptograms_error] at h
    exact h.2.symm
  case purgeData => simp [AVClient.purgeData] at h

end InvalidState

/-- In every run from a new client, a stored identity confirmation token comes with a loaded
configuration. -/
theorem identityConfirmationToken_needs_config (ops : List Op) :
    (runOps initialWorld ops).state.electionConfig = none →
      (runOps initialWorld ops).state.identityConfirmationToken = none := by
  refine runOps_invariant (fun s => s.electionConfig = none → s.identityConfirmationToken = none)
    (fun op s s' heff hs => ?_) initialWorld ops (fun _ => rfl)
  cases heff with
  | loadConfig s c _ => exact fun hc => nomatch hc
  | validateAccess s url t _ hu _ =>
    exact fun hc => by simp [serviceUrlOf, show s.electionConfig = none from hc] at hu
  | _ => exact hs

/-- **Out-of-order calls change nothing.** In every run from a new client, whatever the calls
and whatever the collaborators answer, a call that rejects with an `InvalidStateError` sends no
request and leaves every field of the session as it was. -/
theorem invalidState_changes_nothing (ops : List Op) (op : Op) {message : JsString}
    {w' : World AVClient}
    (h : op.run (runOps initialWorld ops) = .error (.invalidState message) w') :
    w' = runOps initialWorld ops :=
  Op.run_invalidState (identityConfirmationToken_needs_config ops) h

/-- After `initialize` and `requestAccessCode`, a `registerVoter` rejects with its
`InvalidStateError` and leaves the session as it was: it has not assigned the key pair. -/
theorem registerVoter_unvalidated_changes_nothing :
    (Op.registerVoter keyA sampleAuthorization (.ok contestOneRegistration)).run
        (runOps initialWorld ((otpRegistration keyA contestOneRegistration).take 2)) =
      .error (.invalidState identityNotConfirmed)
        (settled ((Op.registerVoter keyA sampleAuthorization (.ok contestOneRegistration)).run
          (runOps initialWorld ((otpRegistration keyA contestOneRegistration).take 2)))) ∧
    settled ((Op.registerVoter keyA sampleAuthorization (.ok contestOneRegistration)).run
        (runOps initialWorld ((otpRegistration keyA contestOneRegistration).take 2))) =
      runOps initialWorld ((otpRegistration keyA contestOneRegistration).take 2) :=
  ⟨rfl, invalidState_changes_nothing ((otpRegistration keyA contestOneRegistration).take 2)
    (.registerVoter keyA sampleAuthorization (.ok contestOneRegistration)) rfl⟩

end AvClient
