import AvClient.Async

/-!
# The election configuration (`election_config.ts`)

`fetchElectionConfig` asks the bulletin board for the configuration and appends the affidavit
settings to it. `validateElectionConfig` checks, with optional chaining, that both services
(the voter authorizer and the OTP provider) have a non-empty URL, election context uuid and
public key; it collects one message per missing field, in a fixed order, and throws an
`InvalidConfigError` joining them when any is missing.

The fields of `ElectionConfig` that no modelled function reads (`app_url`, `availableLocales`,
`currentLocale`) are left out. Fields the client reads without a check (`encryptionKey`,
`election.id`, `ballots`) are taken as present, as their types say; the service fields, which
`validateElectionConfig` tests for `undefined`, may be missing.

## Main results

* `validateElectionConfig_ok_iff` — a configuration passes exactly when both services are
  present with a non-empty URL, election context uuid and public key; otherwise the check
  throws the `InvalidConfigError` of the failing checks' messages.
* `validationErrors_eq_nil_iff` — the collected messages are empty exactly when every check
  passes; each message stands for the check that failed.
* `fetchElectionConfig_ok_iff` — what a fetched configuration is.
-/

namespace AvClient

open Json Async

/-- Interface `Service` of a configured collaborator. -/
structure Service where
  url : Option JsString
  election_context_uuid : Option JsString
  public_key : Option JsString
  deriving DecidableEq

/-- The property `services` of the configuration. -/
structure Services where
  voter_authorizer : Option Service
  otp_provider : Option Service
  deriving DecidableEq

/-- Type `Election`: the client reads its `id`. -/
structure Election where
  id : Nat
  deriving DecidableEq

/-- Type `Ballot`, one contest: its `id`, the `vote_encoding_type` passed to the encryption,
and (from the spec) the references of its options, which the CVR names. -/
structure Ballot where
  id : Nat
  vote_encoding_type : Nat
  options : List JsString
  deriving DecidableEq

/-- Interface `AffidavitConfig`. -/
structure AffidavitConfig where
  curve : JsString
  encryptionKey : JsString
  deriving DecidableEq

/-- Interface `ElectionConfig`, with the property `authorizationMode` that
`getAuthorizationMethod` reads. -/
structure ElectionConfig where
  encryptionKey : JsString
  signingPublicKey : JsString
  election : Election
  ballots : List Ballot
  affidavit : Option AffidavitConfig
  services : Option Services
  authorizationMode : Option JsString
  deriving DecidableEq

/-! ## Validation -/

/-- Test `config?.services?.<service>?.<field>?.length > 0`; `undefined > 0` is false. -/
def containsServiceField (service : Services → Option Service)
    (field : Service → Option JsString) (config : ElectionConfig) : Bool :=
  match (config.services.bind service).bind field with
  | some s => decide (0 < s.length)
  | none => false

/-- Function `containsOTPProviderURL`. -/
def containsOTPProviderURL : ElectionConfig → Bool :=
  containsServiceField Services.otp_provider Service.url

/-- Function `containsOTPProviderContextId`. -/
def containsOTPProviderContextId : ElectionConfig → Bool :=
  containsServiceField Services.otp_provider Service.election_context_uuid

/-- Function `containsOTPProviderPublicKey`. -/
def containsOTPProviderPublicKey : ElectionConfig → Bool :=
  containsServiceField Services.otp_provider Service.public_key

/-- Function `containsVoterAuthorizerURL`. -/
def containsVoterAuthorizerURL : ElectionConfig → Bool :=
  containsServiceField Services.voter_authorizer Service.url

/-- Function `containsVoterAuthorizerContextId`. -/
def containsVoterAuthorizerContextId : ElectionConfig → Bool :=
  containsServiceField Services.voter_authorizer Service.election_context_uuid

/-- Function `containsVoterAuthorizerPublicKey`. -/
def containsVoterAuthorizerPublicKey : ElectionConfig → Bool :=
  containsServiceField Services.voter_authorizer Service.public_key

/-- The checks of `validateElectionConfig`, in order, each with the message it pushes. -/
def configChecks : List ((ElectionConfig → Bool) × String) :=
  [(containsOTPProviderURL, "Configuration is missing OTP Provider URL"),
   (containsOTPProviderContextId, "Configuration is missing OTP Provider election context uuid"),
   (containsOTPProviderPublicKey, "Configuration is missing OTP Provider public key"),
   (containsVoterAuthorizerURL, "Configuration is missing Voter Authorizer URL"),
   (containsVoterAuthorizerContextId,
     "Configuration is missing Voter Authorizer election context uuid"),
   (containsVoterAuthorizerPublicKey, "Configuration is missing Voter Authorizer public key")]

/-- The array `errors`: the message of every failing check, in order. -/
def validationErrors (config : ElectionConfig) : List JsString :=
  (configChecks.filter fun check => !check.1 config).map fun check => .ofString check.2

/-- The text before the joined messages of an `InvalidConfigError`. -/
def invalidElectionConfiguration : JsString :=
  .ofString "Received invalid election configuration. Errors: "

/-- Function `validateElectionConfig`. -/
def validateElectionConfig (config : ElectionConfig) : Except Rejection Unit :=
  let errors := validationErrors config
  if errors.length > 0 then
    .error (.invalidConfig (invalidElectionConfiguration ++
      List.intercalate (JsString.ofString ",\n") errors))
  else .ok ()

/-- A service field that passes its check: present and non-empty. -/
theorem containsServiceField_iff {service : Services → Option Service}
    {field : Service → Option JsString} {config : ElectionConfig} :
    containsServiceField service field config = true ↔
      truthy ((config.services.bind service).bind field) = true := by
  unfold containsServiceField truthy
  split <;> simp [List.length_pos, List.isEmpty_iff, *]

theorem validationErrors_eq_nil_iff {config : ElectionConfig} :
    validationErrors config = [] ↔ ∀ check ∈ configChecks, check.1 config = true := by
  simp [validationErrors, List.filter_eq_nil_iff]

/-- `validateElectionConfig` accepts a configuration exactly when no check pushed an error. -/
theorem validateElectionConfig_ok_iff_nil {config : ElectionConfig} :
    validateElectionConfig config = .ok () ↔ validationErrors config = [] := by
  simp only [validateElectionConfig]
  split <;> simp_all [List.length_pos]

/-- A service whose three fields pass their checks. -/
def ServiceComplete (svc : Option Service) : Prop :=
  ∃ s, svc = some s ∧ truthy s.url ∧ truthy s.election_context_uuid ∧ truthy s.public_key

private theorem serviceComplete_iff (svc : Option Service) :
    ServiceComplete svc ↔ truthy (svc.bind Service.url) ∧
      truthy (svc.bind Service.election_context_uuid) ∧ truthy (svc.bind Service.public_key) := by
  cases svc <;> simp [ServiceComplete, truthy]

/-- Every check passes exactly when both services are present with their three fields. -/
theorem validationErrors_eq_nil_iff_complete (config : ElectionConfig) :
    validationErrors config = [] ↔
      ServiceComplete (config.services.bind Services.otp_provider) ∧
      ServiceComplete (config.services.bind Services.voter_authorizer) := by
  simp only [validationErrors_eq_nil_iff, configChecks,
    List.mem_cons, forall_eq_or_imp, List.not_mem_nil, false_imp_iff, implies_true, and_true,
    serviceComplete_iff,
    containsOTPProviderURL, containsOTPProviderContextId, containsOTPProviderPublicKey,
    containsVoterAuthorizerURL, containsVoterAuthorizerContextId, containsVoterAuthorizerPublicKey,
    containsServiceField_iff, Option.bind_assoc, and_assoc]

/-- When a check fails, `validateElectionConfig` throws the `InvalidConfigError` whose message
joins the messages of the failing checks. -/
theorem validateElectionConfig_of_errors {config : ElectionConfig}
    (h : validationErrors config ≠ []) :
    validateElectionConfig config = .error (.invalidConfig (invalidElectionConfiguration ++
      List.intercalate (JsString.ofString ",\n") (validationErrors config))) := by
  simp [validateElectionConfig, List.length_pos.mpr h]

/-- **The configuration check.** `validateElectionConfig` accepts a configuration exactly when
both services are present and each has a non-empty URL, election context uuid and public
key; otherwise it throws an `InvalidConfigError` whose message joins, after its fixed text, the
messages of the failing checks with `,\n`. -/
theorem validateElectionConfig_ok_iff (config : ElectionConfig) :
    (validateElectionConfig config = .ok () ↔
      ServiceComplete (config.services.bind Services.otp_provider) ∧
      ServiceComplete (config.services.bind Services.voter_authorizer)) ∧
    (¬(ServiceComplete (config.services.bind Services.otp_provider) ∧
        ServiceComplete (config.services.bind Services.voter_authorizer)) →
      validateElectionConfig config = .error (.invalidConfig (invalidElectionConfiguration ++
        List.intercalate (JsString.ofString ",\n") (validationErrors config)))) :=
  ⟨validateElectionConfig_ok_iff_nil.trans (validationErrors_eq_nil_iff_complete config),
    fun h => validateElectionConfig_of_errors (mt (validationErrors_eq_nil_iff_complete config).mp h)⟩

/-- `validateElectionConfig` throws nothing but an `InvalidConfigError`. -/
theorem validateElectionConfig_error {config : ElectionConfig} {e : Rejection}
    (h : validateElectionConfig config = .error e) : ∃ m, e = .invalidConfig m := by
  simp only [validateElectionConfig] at h
  split at h <;> cases h
  exact ⟨_, rfl⟩

/-! ## Fetching -/

/-- The affidavit settings `fetchElectionConfig` appends: curve `k256` and a fixed public key. -/
def fetchedAffidavit : AffidavitConfig where
  curve := .ofString "k256"
  encryptionKey := .ofString "03e9858b6e48eb93d8f27aa76b60806298c4c7dd94077ad6c3ff97c44937888647"

/-- Function `fetchElectionConfig`: the response's `data` (a `TypeError` when it has none), with
the affidavit settings assigned. -/
def fetchElectionConfig {σ : Type} (response : Except JsString (Option ElectionConfig)) :
    Async σ ElectionConfig := do
  let data ← await .getElectionConfig response
  let configData ← deref data
  pure { configData with affidavit := some fetchedAffidavit }

theorem fetchElectionConfig_ok_iff {σ : Type} {response : Except JsString (Option ElectionConfig)}
    {w w' : World σ} {config : ElectionConfig} :
    fetchElectionConfig response w = .ok config w' ↔
      ∃ data, response = .ok (some data) ∧
        config = { data with affidavit := some fetchedAffidavit } ∧
        w' = w.record .getElectionConfig := by
  unfold fetchElectionConfig
  rcases response with e | (_ | data) <;> simp [eq_comm]

/-- A failed fetch makes the one request and leaves the fields as they were. -/
theorem fetchElectionConfig_error {σ : Type} {response : Except JsString (Option ElectionConfig)}
    {w w' : World σ} {e : Rejection} (h : fetchElectionConfig response w = .error e w') :
    w' = w.record .getElectionConfig := by
  unfold fetchElectionConfig at h
  rcases response with e | (_ | data) <;> simp at h <;> exact h.2.symm

end AvClient
