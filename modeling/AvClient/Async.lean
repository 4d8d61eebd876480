import AvClient.ContestMap

/-!
# Awaited calls, collaborators and rejections

Every public operation of `AVClient` and of `SubmitVotes` is an `async` method. It reads and
writes the fields of its object, awaits its collaborators (the bulletin board, the voter
authorization coordinator, the OTP provider), and either resolves with a value or rejects.
A field written before an `await` that rejects stays written. An operation is therefore an
`EStateM` computation: its error result keeps the state reached, so a statement about a failed
call sees every write made before the failure.

The state also records the collaborator calls made so far, with the arguments sent, so that a
statement can say which calls an operation made, or that it made none, before it settled.

Collaborator responses are inputs of the model: each awaited call takes the response its
collaborator gives, a value or an error message, and any response is allowed.
-/

namespace AvClient

open Json

/-- A key pair: the private scalar and the public point, as hex strings (`KeyPair`). -/
structure KeyPair where
  privateKey : JsString
  publicKey : JsString
  deriving DecidableEq, Repr

/-- One contest's encrypted vote: its cryptogram and the proof that it encrypts a valid
vote (`EncryptedVote`, `OpenableEnvelope`). -/
structure EncryptedVote where
  cryptogram : JsString
  proof : JsString
  deriving DecidableEq, Repr

/-- One contest's cryptogram and proof as submitted to the board (`CryptogramWithProof`). -/
structure CryptogramWithProof where
  cryptogram : JsString
  proof : JsString
  deriving DecidableEq, Repr

/-- What an awaited call rejects with. -/
inductive Rejection where
  /-- Rejection `Promise.reject(reason)` with a bare value, as `SubmitVotes` rejects: a string
  of its own, or the `description` of the board's error, which may be `undefined`. -/
  | reason (value : Option JsonValue)
  /-- An error a collaborator raised (a network failure or an HTTP error status), passed on
  unchanged, with its message. -/
  | collaborator (message : JsString)
  /-- Error `new InvalidStateError(message)`. -/
  | invalidState (message : JsString)
  /-- Error `new CorruptCvrError(message)`. -/
  | corruptCvr (message : JsString)
  /-- Error `new InvalidConfigError(message)`. -/
  | invalidConfig (message : JsString)
  /-- Error `new Error(message)`. -/
  | error (message : JsString)
  /-- A `TypeError` raised by the runtime: a property read on `undefined`, or a call of a
  method the object does not have. -/
  | typeError
  deriving DecidableEq, Repr

/-- Rejection `Promise.reject(text)` with a string. -/
def Rejection.text (s : JsString) : Rejection := .reason (some (.string s))

/-- A call the client makes on a collaborator, with the arguments it sends. -/
inductive Call where
  /-- Request `bulletinBoard.getElectionConfig()`. -/
  | getElectionConfig
  /-- Request `coordinator.createSession(opaqueVoterId, email)` to the authorizer at `url`
  (`undefined` when the configuration has no URL). -/
  | createSession (url : Option JsString) (opaqueVoterId email : JsString)
  /-- Request `provider.requestOTPAuthorization(code, email)` to the provider at `url`. -/
  | requestOTPAuthorization (url : Option JsString) (code email : JsString)
  /-- Request `coordinator.requestPublicKeyAuthorization(sessionId, token, publicKey)`. -/
  | requestPublicKeyAuthorization (url : Option JsString) (sessionId : Option JsString)
      (identityConfirmationToken publicKey : JsString)
  /-- Request `registerVoter(bulletinBoard, keyPair, encryptionKey, registrationToken,
  publicKeyToken)`. -/
  | registerVoter (keyPair : KeyPair) (encryptionKey : JsString)
      (registrationToken publicKeyToken : Option JsString)
  /-- Request `AuthenticateWithCodes.authenticate(codes, electionId, encryptionKey)`. -/
  | authenticate (codes : List JsString) (electionId : Nat) (encryptionKey : JsString)
  /-- Request `bulletinBoard.getBoardHash()`. -/
  | getBoardHash
  /-- Request `bulletinBoard.submitVotes(contentHash, signature, cryptogramsWithProofs)`. -/
  | submitVotes (contentHash signature : JsString)
      (cryptogramsWithProofs : ContestMap CryptogramWithProof)
  deriving DecidableEq

/-- The state an operation runs against: the fields of the object it is a method of, and the
collaborator calls made so far. -/
structure World (σ : Type) where
  state : σ
  calls : List Call

/-- The world after one more collaborator call. -/
def World.record {σ : Type} (w : World σ) (c : Call) : World σ :=
  { w with calls := w.calls ++ [c] }

/-- An `async` method of an object with fields `σ`, resolving with an `α`. -/
abbrev Async (σ α : Type) := EStateM Rejection (World σ) α

/-- The world an operation settles in, whether it resolved or rejected. -/
def settled {σ α : Type} : EStateM.Result Rejection σ α → σ
  | .ok _ w => w
  | .error _ w => w

@[simp] theorem settled_ok {σ α : Type} (a : α) (w : σ) :
    settled (.ok a w : EStateM.Result Rejection σ α) = w := rfl

@[simp] theorem settled_error {σ α : Type} (e : Rejection) (w : σ) :
    settled (.error e w : EStateM.Result Rejection σ α) = w := rfl

/-- Truthiness of a string-valued property that may be `undefined`: a non-empty string. -/
def truthy : Option JsString → Bool
  | some s => !s.isEmpty
  | none => false

namespace Async

variable {σ α β : Type}

/-- Keyword `await` on a collaborator: record the call, then take the response, or reject
with the collaborator's error. -/
def await (c : Call) (response : Except JsString α) : Async σ α := fun w =>
  match response with
  | .ok a => .ok a (w.record c)
  | .error e => .error (.collaborator e) (w.record c)

/-- The object's fields, `this`. -/
def fields : Async σ σ := fun w => .ok w.state w

/-- Assign to the object's fields. -/
def write (f : σ → σ) : Async σ Unit := fun w => .ok () { w with state := f w.state }

/-- A synchronous step that may throw. -/
def ofExcept : Except Rejection α → Async σ α
  | .ok a => fun w => .ok a w
  | .error e => fun w => .error e w

/-- Statement `if (!condition) throw error`. -/
def check (condition : Bool) (error : Rejection) : Async σ Unit :=
  if condition then pure () else throw error

/-- A property read on a value that may be `undefined`: a `TypeError` when it is. -/
def deref : Option α → Async σ α
  | some a => pure a
  | none => throw .typeError

@[simp] theorem bind_apply (x : Async σ α) (f : α → Async σ β) (w : World σ) :
    (x >>= f) w = match x w with
      | .ok a w' => f a w'
      | .error e w' => .error e w' := by
  show EStateM.bind x f w = _
  unfold EStateM.bind
  cases x w <;> rfl

@[simp] theorem map_apply (f : α → β) (x : Async σ α) (w : World σ) :
    (f <$> x) w = match x w with
      | .ok a w' => .ok (f a) w'
      | .error e w' => .error e w' := by
  show EStateM.map f x w = _
  unfold EStateM.map
  cases x w <;> rfl

/-- Mapping the result changes neither the fields nor the calls an operation settles with. -/
@[simp] theorem settled_map (f : α → β) (x : Async σ α) (w : World σ) :
    settled ((f <$> x) w) = settled (x w) := by
  rw [map_apply]
  cases x w <;> rfl

/-- Mapping the result does not change whether, with what and where an operation rejects. -/
theorem map_eq_error {f : α → β} {x : Async σ α} {w w' : World σ} {e : Rejection} :
    (f <$> x) w = .error e w' ↔ x w = .error e w' := by
  rw [map_apply]
  cases x w <;> simp

/-- Mapping the result does not change whether and where an operation resolves. -/
theorem map_eq_ok {f : α → β} {x : Async σ α} {w w' : World σ} {b : β} :
    (f <$> x) w = .ok b w' ↔ ∃ a, x w = .ok a w' ∧ f a = b := by
  rw [map_apply]
  cases x w <;> simp [and_assoc, and_comm, and_left_comm, eq_comm]

@[simp] theorem pure_apply (a : α) (w : World σ) : (pure a : Async σ α) w = .ok a w := rfl

@[simp] theorem throw_apply (e : Rejection) (w : World σ) :
    (throw e : Async σ α) w = .error e w := rfl

@[simp] theorem fields_apply (w : World σ) : (fields : Async σ σ) w = .ok w.state w := rfl

@[simp] theorem write_apply (f : σ → σ) (w : World σ) :
    (write f : Async σ Unit) w = .ok () { w with state := f w.state } := rfl

@[simp] theorem await_ok (c : Call) (a : α) (w : World σ) :
    (await c (.ok a) : Async σ α) w = .ok a (w.record c) := rfl

@[simp] theorem await_error (c : Call) (e : JsString) (w : World σ) :
    (await c (.error e) : Async σ α) w = .error (.collaborator e) (w.record c) := rfl

@[simp] theorem ofExcept_ok (a : α) (w : World σ) :
    (ofExcept (.ok a) : Async σ α) w = .ok a w := rfl

@[simp] theorem ofExcept_error (e : Rejection) (w : World σ) :
    (ofExcept (.error e) : Async σ α) w = .error e w := rfl

@[simp] theorem check_true (e : Rejection) (w : World σ) :
    (check true e : Async σ Unit) w = .ok () w := rfl

@[simp] theorem check_false (e : Rejection) (w : World σ) :
    (check false e : Async σ Unit) w = .error e w := rfl

@[simp] theorem deref_some (a : α) (w : World σ) :
    (deref (some a) : Async σ α) w = .ok a w := rfl

@[simp] theorem deref_none (w : World σ) :
    (deref none : Async σ α) w = .error .typeError w := rfl

end Async

@[simp] theorem World.record_state {σ : Type} (w : World σ) (c : Call) :
    (w.record c).state = w.state := rfl

@[simp] theorem World.record_calls {σ : Type} (w : World σ) (c : Call) :
    (w.record c).calls = w.calls ++ [c] := rfl

end AvClient
