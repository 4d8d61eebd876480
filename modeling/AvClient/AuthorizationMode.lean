import AvClient.Lifecycle

/-!
# The authorization mode is read by one method

The configuration's `authorizationMode` says which flow an election uses: `'election codes'`
(`authenticateWithCodes`) or `'otps'` (`requestAccessCode`, `validateAccessCode`,
`registerVoter`). `getAuthorizationMethod` reads it to tell the app which flow to offer, and
`getElectionConfig` returns it with the rest of the configuration. No other method reads it, so
the client does not enforce it: two sessions whose configurations differ only in the mode
answer every other call alike and send the same requests.

The proof is relational. A computation is `Oblivious` when running it with the mode changed gives
the same result with the mode changed the same way. Each primitive of `Async` is oblivious, and
so are the reads of a field or of the configuration whose continuation does not look at the
mode; every method is then assembled from these, as its `do` block is. `initialize` replaces the
configuration, so it only satisfies the weaker `ErasesMode`: the same result once the mode is
erased.

## Main results

* `Oblivious.bind`, `Oblivious.fields_bind`, `Oblivious.getElectionConfig_bind` — closure of
  obliviousness under the monad's operations.
* `Op.run_erasesMode` — every call but `getAuthorizationMethod` and `getElectionConfig` gives the
  same result, the mode erased, whatever the mode.
* `authorizationMode_noninterference` — two sessions that differ only in the mode stay so along
  any run, send the same requests, and answer every call but those two alike.
-/

namespace AvClient

open Json Async SubmitVotes AVClient

/-- The configuration with its `authorizationMode` set to `mode`. -/
def ElectionConfig.withMode (mode : Option JsString) (c : ElectionConfig) : ElectionConfig :=
  { c with authorizationMode := mode }

/-- The session whose loaded configuration has its `authorizationMode` set to `mode`. -/
def AVClient.withMode (mode : Option JsString) (s : AVClient) : AVClient :=
  { s with electionConfig := s.electionConfig.map (ElectionConfig.withMode mode) }

/-- The world whose session has its configuration's `authorizationMode` set to `mode`. -/
def World.withMode (mode : Option JsString) (w : World AVClient) : World AVClient :=
  ⟨w.state.withMode mode, w.calls⟩

@[simp] theorem World.withMode_calls (mode : Option JsString) (w : World AVClient) :
    (w.withMode mode).calls = w.calls := rfl

theorem World.withMode_withMode (mode mode' : Option JsString) (w : World AVClient) :
    (w.withMode mode).withMode mode' = w.withMode mode' := by
  simp only [World.withMode, AVClient.withMode, Option.map_map]
  rfl

/-- The result of an operation with its world changed by `f`. -/
def mapWorld {α : Type} (f : World AVClient → World AVClient) :
    EStateM.Result Rejection (World AVClient) α → EStateM.Result Rejection (World AVClient) α
  | .ok a w => .ok a (f w)
  | .error e w => .error e (f w)

@[simp] theorem settled_mapWorld {α : Type} (f : World AVClient → World AVClient)
    (r : EStateM.Result Rejection (World AVClient) α) : settled (mapWorld f r) = f (settled r) := by
  cases r <;> rfl

@[simp] theorem outcome_mapWorld (f : World AVClient → World AVClient)
    (r : EStateM.Result Rejection (World AVClient) Reply) : outcome (mapWorld f r) = outcome r := by
  cases r <;> rfl

theorem mapWorld_mapWorld {α : Type} (f g : World AVClient → World AVClient)
    (r : EStateM.Result Rejection (World AVClient) α) :
    mapWorld g (mapWorld f r) = mapWorld (g ∘ f) r := by
  cases r <;> rfl

/-! ## Computations that do not read the mode -/

/-- An operation that does not read the authorization mode: run with the mode changed, it gives
the same result, in its world with the mode changed the same way. -/
def Oblivious {α : Type} (x : Async AVClient α) : Prop :=
  ∀ mode w, x (w.withMode mode) = mapWorld (World.withMode mode) (x w)

namespace Oblivious

variable {α β : Type}

theorem pure (a : α) : Oblivious (Pure.pure a : Async AVClient α) := fun _ _ => rfl

theorem throw (e : Rejection) : Oblivious (MonadExcept.throw e : Async AVClient α) :=
  fun _ _ => rfl

theorem ofExcept (x : Except Rejection α) : Oblivious (Async.ofExcept x) := by
  cases x <;> exact fun _ _ => rfl

theorem deref (x : Option α) : Oblivious (Async.deref x) := by
  cases x <;> exact fun _ _ => rfl

theorem check (b : Bool) (e : Rejection) : Oblivious (Async.check b e) := by
  cases b <;> exact fun _ _ => rfl

theorem await (c : Call) (r : Except JsString α) : Oblivious (Async.await c r) := by
  cases r <;> exact fun _ _ => rfl

/-- A write of fields other than the configuration. -/
theorem write {f : AVClient → AVClient} (hf : ∀ mode s, f (s.withMode mode) = (f s).withMode mode) :
    Oblivious (Async.write f) := fun mode w => by
  simp only [write_apply, mapWorld, World.withMode, hf]

theorem bind {x : Async AVClient α} {f : α → Async AVClient β} (hx : Oblivious x)
    (hf : ∀ a, Oblivious (f a)) : Oblivious (x >>= f) := by
  intro mode w
  rw [bind_apply, bind_apply, hx]
  cases x w with
  | ok a w' => exact hf a mode w'
  | error e w' => rfl

theorem map (f : α → β) {x : Async AVClient α} (hx : Oblivious x) : Oblivious (f <$> x) := by
  intro mode w
  rw [map_apply, map_apply, hx]
  cases x w <;> rfl

/-- A read of the fields whose continuation does not look at the mode. -/
theorem fields_bind {k : AVClient → Async AVClient β} (hk : ∀ mode s, k (s.withMode mode) = k s)
    (hk' : ∀ s, Oblivious (k s)) : Oblivious (fields >>= k) := by
  intro mode w
  rw [bind_apply, bind_apply, fields_apply, fields_apply]
  exact (congrArg (· (w.withMode mode)) (hk mode w.state)).trans (hk' _ mode w)

/-- A read of the configuration whose continuation does not look at the mode. -/
theorem getElectionConfig_bind {k : ElectionConfig → Async AVClient β}
    (hk : ∀ mode c, k (c.withMode mode) = k c) (hk' : ∀ c, Oblivious (k c)) :
    Oblivious (getElectionConfig >>= k) := by
  intro mode w
  rw [bind_apply, bind_apply, getElectionConfig_apply, getElectionConfig_apply]
  rcases hc : w.state.electionConfig with _ | c
  · simp [loadedConfig, World.withMode, AVClient.withMode, hc, mapWorld]
  · have hc' : (w.withMode mode).state.electionConfig = some (c.withMode mode) := by
      simp [World.withMode, AVClient.withMode, hc]
    simp only [hc, hc', loadedConfig, ofExcept_ok]
    rw [hk]
    exact hk' c mode w

end Oblivious

/-- An operation whose result, the mode erased, does not depend on the mode. -/
def ErasesMode {α : Type} (x : Async AVClient α) : Prop :=
  ∀ mode w, mapWorld (World.withMode none) (x (w.withMode mode)) =
    mapWorld (World.withMode none) (x w)

theorem Oblivious.erasesMode {α : Type} {x : Async AVClient α} (hx : Oblivious x) :
    ErasesMode x := by
  intro mode w
  rw [hx, mapWorld_mapWorld]
  congr 1
  funext w'
  exact World.withMode_withMode _ _ w'

theorem ErasesMode.bind {α β : Type} {x : Async AVClient α} {f : α → Async AVClient β}
    (hx : Oblivious x) (hf : ∀ a, ErasesMode (f a)) : ErasesMode (x >>= f) := by
  intro mode w
  rw [bind_apply, bind_apply, hx]
  cases x w with
  | ok a w' => exact hf a mode w'
  | error e w' => exact congrArg (EStateM.Result.error e) (World.withMode_withMode _ _ w')

theorem ErasesMode.map {α β : Type} (f : α → β) {x : Async AVClient α} (hx : ErasesMode x) :
    ErasesMode (f <$> x) := by
  intro mode w
  have h := hx mode w
  rw [map_apply, map_apply]
  cases hl : x (w.withMode mode) <;> cases hr : x w <;> simp_all [mapWorld]

/-! ## The methods -/

theorem electionId_oblivious : Oblivious electionId :=
  .getElectionConfig_bind (fun _ _ => rfl) fun _ => .pure _

theorem electionEncryptionKey_oblivious : Oblivious electionEncryptionKey :=
  .getElectionConfig_bind (fun _ _ => rfl) fun _ => .pure _

theorem electionSigningPublicKey_oblivious : Oblivious electionSigningPublicKey :=
  .getElectionConfig_bind (fun _ _ => rfl) fun _ => .pure _

theorem affidavitConfig_oblivious : Oblivious affidavitConfig :=
  .getElectionConfig_bind (fun _ _ => rfl) fun _ => .pure _

theorem privateKey_oblivious : Oblivious privateKey :=
  .fields_bind (fun _ _ => rfl) fun _ => .bind (.deref _) fun _ => .pure _

theorem serviceUrl_oblivious (service : Services → Option Service) :
    Oblivious (serviceUrl service) :=
  .getElectionConfig_bind (fun _ _ => rfl) fun _ =>
    .bind (.deref _) fun _ => .bind (.deref _) fun _ => .pure _

theorem fetchElectionConfig_oblivious (response : Except JsString (Option ElectionConfig)) :
    Oblivious (fetchElectionConfig response) :=
  .bind (.await _ _) fun _ => .bind (.deref _) fun _ => .pure _

/-- `initialize` replaces the configuration, mode included, so its result with the mode erased
does not depend on the mode it found. -/
theorem initializeClient_erasesMode (electionConfig : Option ElectionConfig)
    (response : Except JsString (Option ElectionConfig)) :
    ErasesMode (initializeClient electionConfig response) := by
  have hjp : ∀ c, ErasesMode (Async.ofExcept (validateElectionConfig c) >>= fun _ =>
      write fun s => { s with electionConfig := some c }) :=
    fun _ => .bind (.ofExcept _) fun _ _ _ => rfl
  unfold initializeClient
  cases electionConfig with
  | some c => exact .bind (.pure _) hjp
  | none => exact .bind (fetchElectionConfig_oblivious response) hjp

theorem authenticateWithCodes_oblivious (codes : List JsString)
    (response : Except JsString AuthenticationResponse) :
    Oblivious (authenticateWithCodes codes response) :=
  .bind electionId_oblivious fun _ => .bind electionEncryptionKey_oblivious fun _ =>
    .bind (.await _ _) fun _ => .write fun _ _ => rfl

theorem requestAccessCode_oblivious (opaqueVoterId email : JsString)
    (response : Except JsString (Option SessionData)) :
    Oblivious (requestAccessCode opaqueVoterId email response) :=
  .bind (serviceUrl_oblivious _) fun _ => .bind (.await _ _) fun _ => .bind (.deref _) fun _ =>
    .write fun _ _ => rfl

theorem validateAccessCode_oblivious (code : JsString)
    (response : Except JsString (Option JsString)) :
    Oblivious (validateAccessCode code response) := by
  refine .fields_bind (fun _ _ => rfl) fun s => ?_
  split
  · exact .bind (serviceUrl_oblivious _) fun _ => .bind (.await _ _) fun _ => .write fun _ _ => rfl
  · exact .throw _

theorem registerVoter_oblivious (keyPair : KeyPair)
    (authorization : Except JsString (Option PublicKeyAuthorization))
    (registration : Except JsString RegisterVoterResponse) :
    Oblivious (registerVoter keyPair authorization registration) := by
  refine .fields_bind (fun _ _ => rfl) fun s => ?_
  split
  · exact .bind (.write fun _ _ => rfl) fun _ => .bind (serviceUrl_oblivious _) fun _ =>
      .fields_bind (fun _ _ => rfl) fun _ => .bind (.await _ _) fun _ =>
        .bind (.deref _) fun _ => .getElectionConfig_bind (fun _ _ => rfl) fun _ =>
          .bind (.await _ _) fun _ => .write fun _ _ => rfl
  · exact .throw _

theorem constructBallotCryptograms_oblivious (encryptVotes : EncryptVotes)
    (cvr : ContestMap JsString) : Oblivious (constructBallotCryptograms encryptVotes cvr) :=
  .fields_bind (fun _ _ => rfl) fun _ => .bind (.check _ _) fun _ =>
    .getElectionConfig_bind (fun _ _ => rfl) fun _ => .bind (.ofExcept _) fun _ =>
      .bind (.ofExcept _) fun _ => .bind (.write fun _ _ => rfl) fun _ => .pure _

theorem submitBallotCryptograms_oblivious (affidavit : JsString) :
    Oblivious (submitBallotCryptograms affidavit) :=
  .fields_bind (fun _ _ => rfl) fun _ => .bind (.check _ _) fun _ =>
    .bind electionId_oblivious fun _ => .bind privateKey_oblivious fun _ =>
      .bind electionSigningPublicKey_oblivious fun _ => .bind affidavitConfig_oblivious fun _ =>
        .throw _

/-- **The step lemma for the mode.** Every call but `getAuthorizationMethod` and
`getElectionConfig` gives the same result, the mode erased, whatever the mode. -/
theorem Op.run_erasesMode {op : Op} (h₁ : op ≠ .getAuthorizationMethod)
    (h₂ : op ≠ .getElectionConfig) : ErasesMode op.run := by
  cases op with
  | initializeClient ec response => exact .map _ (initializeClient_erasesMode ec response)
  | getElectionConfig => exact absurd rfl h₂
  | getAuthorizationMethod => exact absurd rfl h₁
  | authenticateWithCodes codes response =>
    exact (Oblivious.map _ (authenticateWithCodes_oblivious codes response)).erasesMode
  | requestAccessCode opaqueVoterId email response =>
    exact (Oblivious.map _ (requestAccessCode_oblivious opaqueVoterId email response)).erasesMode
  | validateAccessCode code response =>
    exact (Oblivious.map _ (validateAccessCode_oblivious code response)).erasesMode
  | registerVoter keyPair authorization registration =>
    exact (Oblivious.map _
      (registerVoter_oblivious keyPair authorization registration)).erasesMode
  | constructBallotCryptograms encryptVotes cvr =>
    exact (Oblivious.map _ (constructBallotCryptograms_oblivious encryptVotes cvr)).erasesMode
  | generateTestCode testCode => exact (Oblivious.map _ (.write fun _ _ => rfl)).erasesMode
  | spoilBallotCryptograms => exact (Oblivious.map _ (.throw _)).erasesMode
  | submitBallotCryptograms affidavit =>
    exact (Oblivious.map _ (submitBallotCryptograms_oblivious affidavit)).erasesMode
  | purgeData => exact (Oblivious.map _ (.pure _)).erasesMode

/-! ## Runs -/

/-- Two worlds that agree once the mode is erased give, the mode erased, the same result of an
operation that erases the mode. -/
theorem ErasesMode.agree {α : Type} {x : Async AVClient α} (hx : ErasesMode x)
    {w₁ w₂ : World AVClient} (h : w₁.withMode none = w₂.withMode none) :
    mapWorld (World.withMode none) (x w₁) = mapWorld (World.withMode none) (x w₂) := by
  rw [← hx none w₁, h, hx none w₂]

theorem Op.run_withMode (op : Op) {w₁ w₂ : World AVClient}
    (h : w₁.withMode none = w₂.withMode none) :
    (settled (op.run w₁)).withMode none = (settled (op.run w₂)).withMode none := by
  by_cases h₁ : op = .getAuthorizationMethod
  · subst h₁
    simpa only [Op.run, settled_map, getAuthorizationMethod_settled] using h
  by_cases h₂ : op = .getElectionConfig
  · subst h₂
    rcases hc₁ : w₁.state.electionConfig <;> rcases hc₂ : w₂.state.electionConfig <;>
      simpa [Op.run, loadedConfig, hc₁, hc₂] using h
  simpa only [settled_mapWorld] using congrArg settled ((Op.run_erasesMode h₁ h₂).agree h)

/-- **The authorization mode is advisory.** Two sessions whose loaded configurations differ
at most in `authorizationMode` stay so along any run, whatever the calls and whatever the
collaborators answer: they send the same requests, and every call but `getAuthorizationMethod`
and `getElectionConfig`, which return the mode, has the same outcome in both. No method enforces
the mode: the OTP flow runs in an election-codes election as in an OTP one. -/
theorem authorizationMode_noninterference (w₁ w₂ : World AVClient)
    (h : w₁.withMode none = w₂.withMode none) (ops : List Op) :
    (runOps w₁ ops).withMode none = (runOps w₂ ops).withMode none ∧
      (runOps w₁ ops).calls = (runOps w₂ ops).calls ∧
      ∀ op : Op, op ≠ .getAuthorizationMethod → op ≠ .getElectionConfig →
        outcome (op.run (runOps w₁ ops)) = outcome (op.run (runOps w₂ ops)) := by
  have hrun : (runOps w₁ ops).withMode none = (runOps w₂ ops).withMode none := by
    induction ops generalizing w₁ w₂ with
    | nil => exact h
    | cons op ops ih => exact ih _ _ (Op.run_withMode op h)
  refine ⟨hrun, by simpa using congrArg World.calls hrun, fun op h₁ h₂ => ?_⟩
  simpa only [outcome_mapWorld] using congrArg outcome ((Op.run_erasesMode h₁ h₂).agree hrun)

/-- The test configuration, in an election-codes election. -/
def electionCodesConfig : ElectionConfig :=
  { twoContestConfig with authorizationMode := some (.ofString "election codes") }

/-- The OTP registration runs alike in an OTP and in an election-codes election. -/
theorem otpRegistration_ignores_mode :
    (runOps initialWorld [.initializeClient (some twoContestConfig) (.ok none)]).withMode none =
        (runOps initialWorld
          [.initializeClient (some electionCodesConfig) (.ok none)]).withMode none ∧
      (runOps (runOps initialWorld [.initializeClient (some twoContestConfig) (.ok none)])
          (otpRegistration keyA contestOneRegistration).tail).withMode none =
        (runOps (runOps initialWorld [.initializeClient (some electionCodesConfig) (.ok none)])
          (otpRegistration keyA contestOneRegistration).tail).withMode none ∧
      (runOps (runOps initialWorld [.initializeClient (some twoContestConfig) (.ok none)])
          (otpRegistration keyA contestOneRegistration).tail).calls =
        (runOps (runOps initialWorld [.initializeClient (some electionCodesConfig) (.ok none)])
          (otpRegistration keyA contestOneRegistration).tail).calls ∧
      ∀ op : Op, op ≠ .getAuthorizationMethod → op ≠ .getElectionConfig →
        outcome (op.run (runOps (runOps initialWorld
          [.initializeClient (some twoContestConfig) (.ok none)])
          (otpRegistration keyA contestOneRegistration).tail)) =
        outcome (op.run (runOps (runOps initialWorld
          [.initializeClient (some electionCodesConfig) (.ok none)])
          (otpRegistration keyA contestOneRegistration).tail)) := by
  have h : (runOps initialWorld [.initializeClient (some twoContestConfig) (.ok none)]).withMode
      none = (runOps initialWorld
        [.initializeClient (some electionCodesConfig) (.ok none)]).withMode none := rfl
  exact ⟨h, authorizationMode_noninterference _ _ h _⟩

end AvClient
