import AvClient.SubmitVotes

/-!
# Which receipts a submission accepts

`signAndSubmitVotes_ok_iff` says when a submission resolves in terms of the steps of
`SubmitVotes`. This module states the same with every object the client hashes written out:
the signed content, the board-hash object and the receipt-hash object, and the five fields the
receipt copies from the board's answer.

The board-hash check is `computedBoardHash != receipt.boardHash`, a loose inequality. For a
`boardHash` that is a string, `null` or missing it is the strict one, and the receipt is
accepted exactly when its `boardHash` is the recomputed hash. For other values it is not: a
receipt whose `boardHash` is the array holding the recomputed hash passes the check.

## Main results

* `signAndSubmitVotes_spec` — for a board whose `boardHash` answers are strings, `null` or
  missing: the receipt acceptance, and each rejection in order, with the calls made before it.
* `signAndSubmitVotes_accepts_wrapped_hash` — a receipt whose `boardHash` is `[H]` is accepted,
  and a `null` answer makes the submission throw a `TypeError`.
-/

namespace AvClient.SubmitVotes

open Json Async

/-- The content hash, with the signed content written out. -/
theorem contentHash_eq (crypto : Crypto) (ack : AcknowledgedBoard)
    (args : SignAndSubmitArguments) :
    contentHash crypto ack args = crypto.hashString (JsonValue.object
      [(.ofString "acknowledged_at", ack.currentTime),
       (.ofString "acknowledged_board_hash", ack.currentBoardHash),
       (.ofString "election_id", .number args.electionId),
       (.ofString "voter_identifier", .string args.voterIdentifier),
       (.ofString "votes", .object (args.voteEncryptions.entries.map
         fun p => (p.1, .string p.2.cryptogram)))]).stringify := by
  simp [contentHash, signedContent, SignedContent.toJson, collectVotes_eq, ContestMap.mapWithKey,
    Function.comp_def]

theorem acknowledgement_eq_some {board : BulletinBoard} {ack : AcknowledgedBoard} :
    acknowledgement board = some ack ↔ ∃ data, board.getBoardHash = .ok data ∧
      data.property (.ofString "currentBoardHash") = some ack.currentBoardHash ∧
      data.property (.ofString "currentTime") = some ack.currentTime ∧
      toBoolean (some ack.currentBoardHash) = true ∧ toBoolean (some ack.currentTime) = true := by
  unfold acknowledgement
  rcases board.getBoardHash with e | data <;> simp [acknowledgedBoard?_eq_some]

/-- A response fails the check of `acknowledge` when either field is falsy. -/
theorem acknowledgedBoard?_eq_none {data : JsonValue}
    (h : toBoolean (data.property (.ofString "currentBoardHash")) = false ∨
      toBoolean (data.property (.ofString "currentTime")) = false) :
    acknowledgedBoard? data = none := by
  rcases hd : acknowledgedBoard? data with _ | ack
  · rfl
  · obtain ⟨h₁, h₂, h₃, h₄⟩ := acknowledgedBoard?_eq_some.mp hd
    rw [h₁, h₂] at h
    simp [h₃, h₄] at h

/-- On a string, `null` or `undefined`, the loose comparison with a string is the strict one,
and does not throw. -/
theorem looselyEquals?_of_stringOrAbsent {x : JsString} {v : Option JsonValue}
    (hv : ∀ v', v = some v' → v' = .null ∨ ∃ s, v' = .string s) :
    looselyEquals? x v = some (decide (v = some (.string x))) := by
  rcases v with _ | v
  · rfl
  · rcases hv v rfl with rfl | ⟨s, rfl⟩
    · rfl
    · by_cases h : x = s
      · subst h; simp [looselyEquals?]
      · simp [looselyEquals?, h, Ne.symm h]

section Spec

variable (crypto : Crypto) (board : BulletinBoard) (args : SignAndSubmitArguments)
  {σ : Type} (w : World σ)

/-- **Receipt acceptance.** For a board whose every `boardHash` answer is a string, `null` or
missing, a submission resolves with `r` exactly when the `getBoardHash` data has a truthy
`currentBoardHash` `h` and `currentTime` `t`; the `submitVotes` call with the hash `c` of the
content `{acknowledged_at: t, acknowledged_board_hash: h, election_id, voter_identifier,
votes}`, the voter's signature `s` of `c` and the cryptograms with their proofs is answered
with `data` that is not `null` and has a falsy `error`; `r` is the five fields of `data`;
`r.boardHash` is the hash of `{content_hash: c, previous_board_hash, registered_at}`; and the
server's signature verifies over `{board_hash, signature: s}`. Otherwise it rejects at the first
step that fails, in order: the `getBoardHash` request; a `null` answer to it; a falsy board hash
or time, with no `submitVotes` call made; the `submitVotes` request; a `null` answer to it; a
truthy `error`, with its `description`; a corrupt board hash; a corrupt server signature. -/
theorem signAndSubmitVotes_spec
    (hboardHash : ∀ contentHash signature cryptogramsWithProofs data v,
      board.submitVotes contentHash signature cryptogramsWithProofs = .ok data →
      data.property (.ofString "boardHash") = some v → v = .null ∨ ∃ s, v = .string s) :
    (∀ r : VoteReceipt, (∃ w', signAndSubmitVotes crypto board args w = .ok r w') ↔
      ∃ (ackData h t data : JsonValue) (c s : JsString),
        board.getBoardHash = .ok ackData ∧
        ackData.property (.ofString "currentBoardHash") = some h ∧
        ackData.property (.ofString "currentTime") = some t ∧
        toBoolean (some h) = true ∧ toBoolean (some t) = true ∧
        c = crypto.hashString (JsonValue.object
          [(.ofString "acknowledged_at", t), (.ofString "acknowledged_board_hash", h),
           (.ofString "election_id", .number args.electionId),
           (.ofString "voter_identifier", .string args.voterIdentifier),
           (.ofString "votes", .object (args.voteEncryptions.entries.map
             fun p => (p.1, .string p.2.cryptogram)))]).stringify ∧
        s = crypto.generateSchnorrSignature c args.privateKey ∧
        board.submitVotes c s (args.voteEncryptions.mapWithKey
          fun _ v => ⟨v.cryptogram, v.proof⟩) = .ok data ∧
        data ≠ .null ∧ toBoolean (data.property (.ofString "error")) = false ∧
        r = ⟨data.property (.ofString "previousBoardHash"), data.property (.ofString "boardHash"),
          data.property (.ofString "registeredAt"), data.property (.ofString "serverSignature"),
          data.property (.ofString "voteSubmissionId")⟩ ∧
        r.boardHash = some (.string (crypto.hashString (JsonValue.object
          ((.ofString "content_hash", .string c) ::
            (r.previousBoardHash.toList.map fun v => (.ofString "previous_board_hash", v)) ++
            r.registeredAt.toList.map fun v => (.ofString "registered_at", v))).stringify)) ∧
        crypto.verifySchnorrSignature r.serverSignature (crypto.hashString (JsonValue.object
          ((r.boardHash.toList.map fun v => (.ofString "board_hash", v)) ++
            [(.ofString "signature", .string s)])).stringify) args.signatureKey = true) ∧
    (∀ e, board.getBoardHash = .error e →
      signAndSubmitVotes crypto board args w = .error (.collaborator e) (w.record .getBoardHash)) ∧
    (board.getBoardHash = .ok .null →
      signAndSubmitVotes crypto board args w = .error .typeError (w.record .getBoardHash)) ∧
    (∀ ackData, board.getBoardHash = .ok ackData → ackData ≠ .null →
      toBoolean (ackData.property (.ofString "currentBoardHash")) = false ∨
        toBoolean (ackData.property (.ofString "currentTime")) = false →
      signAndSubmitVotes crypto board args w =
        .error (.text couldNotGetLatestBoardHash) (w.record .getBoardHash)) ∧
    (∀ (ackData h t : JsonValue) (c s : JsString), board.getBoardHash = .ok ackData →
      ackData.property (.ofString "currentBoardHash") = some h →
      ackData.property (.ofString "currentTime") = some t →
      toBoolean (some h) = true → toBoolean (some t) = true →
      c = crypto.hashString (JsonValue.object
        [(.ofString "acknowledged_at", t), (.ofString "acknowledged_board_hash", h),
         (.ofString "election_id", .number args.electionId),
         (.ofString "voter_identifier", .string args.voterIdentifier),
         (.ofString "votes", .object (args.voteEncryptions.entries.map
           fun p => (p.1, .string p.2.cryptogram)))]).stringify →
      s = crypto.generateSchnorrSignature c args.privateKey →
      (∀ e, board.submitVotes c s (args.voteEncryptions.mapWithKey
          fun _ v => ⟨v.cryptogram, v.proof⟩) = .error e →
        signAndSubmitVotes crypto board args w = .error (.collaborator e)
          ((w.record .getBoardHash).record (.submitVotes c s (args.voteEncryptions.mapWithKey
            fun _ v => ⟨v.cryptogram, v.proof⟩)))) ∧
      (board.submitVotes c s (args.voteEncryptions.mapWithKey
          fun _ v => ⟨v.cryptogram, v.proof⟩) = .ok .null →
        signAndSubmitVotes crypto board args w = .error .typeError
          ((w.record .getBoardHash).record (.submitVotes c s (args.voteEncryptions.mapWithKey
            fun _ v => ⟨v.cryptogram, v.proof⟩)))) ∧
      (∀ data error, board.submitVotes c s (args.voteEncryptions.mapWithKey
          fun _ v => ⟨v.cryptogram, v.proof⟩) = .ok data →
        data.property (.ofString "error") = some error → toBoolean (some error) = true →
        signAndSubmitVotes crypto board args w =
          .error (.reason (error.property (.ofString "description")))
            ((w.record .getBoardHash).record (.submitVotes c s (args.voteEncryptions.mapWithKey
              fun _ v => ⟨v.cryptogram, v.proof⟩)))) ∧
      (∀ data (r : VoteReceipt), board.submitVotes c s (args.voteEncryptions.mapWithKey
          fun _ v => ⟨v.cryptogram, v.proof⟩) = .ok data →
        data ≠ .null → toBoolean (data.property (.ofString "error")) = false →
        r = ⟨data.property (.ofString "previousBoardHash"), data.property (.ofString "boardHash"),
          data.property (.ofString "registeredAt"), data.property (.ofString "serverSignature"),
          data.property (.ofString "voteSubmissionId")⟩ →
        (r.boardHash ≠ some (.string (crypto.hashString (JsonValue.object
            ((.ofString "content_hash", .string c) ::
              (r.previousBoardHash.toList.map fun v => (.ofString "previous_board_hash", v)) ++
              r.registeredAt.toList.map fun v => (.ofString "registered_at", v))).stringify)) →
          signAndSubmitVotes crypto board args w = .error (.text corruptBoardHash)
            ((w.record .getBoardHash).record (.submitVotes c s (args.voteEncryptions.mapWithKey
              fun _ v => ⟨v.cryptogram, v.proof⟩)))) ∧
        (r.boardHash = some (.string (crypto.hashString (JsonValue.object
            ((.ofString "content_hash", .string c) ::
              (r.previousBoardHash.toList.map fun v => (.ofString "previous_board_hash", v)) ++
              r.registeredAt.toList.map fun v => (.ofString "registered_at", v))).stringify)) →
          crypto.verifySchnorrSignature r.serverSignature (crypto.hashString (JsonValue.object
            ((r.boardHash.toList.map fun v => (.ofString "board_hash", v)) ++
              [(.ofString "signature", .string s)])).stringify) args.signatureKey = false →
          signAndSubmitVotes crypto board args w = .error (.text corruptServerSignature)
            ((w.record .getBoardHash).record (.submitVotes c s (args.voteEncryptions.mapWithKey
              fun _ v => ⟨v.cryptogram, v.proof⟩)))))) := by
  have hcwp : (collectVotes args.voteEncryptions).2 =
      args.voteEncryptions.mapWithKey fun _ v => ⟨v.cryptogram, v.proof⟩ := by
    rw [collectVotes_eq]
  have hloose : ∀ {c s cwp data} (x : JsString), board.submitVotes c s cwp = .ok data →
      looselyEquals? x (receiptOf data).boardHash =
        some (decide ((receiptOf data).boardHash = some (.string x))) :=
    fun x hd => looselyEquals?_of_stringOrAbsent fun v hv => hboardHash _ _ _ _ v hd hv
  refine ⟨fun r => ?_, fun e he => ?_, fun hn => ?_, fun ackData hb hn hfail => ?_,
    fun ackData h t c s hb hh ht hth htt hc hs => ?_⟩
  · rw [signAndSubmitVotes_ok_iff]
    constructor
    · rintro ⟨⟨h, t⟩, data, hack, hdata, hn, herr, rfl, hbh, hsig⟩
      obtain ⟨ackData, hb, hh, ht, hth, htt⟩ := acknowledgement_eq_some.mp hack
      rw [hloose _ hdata] at hbh
      rw [hcwp] at hdata
      exact ⟨ackData, h, t, data, _, _, hb, hh, ht, hth, htt, contentHash_eq .., rfl, hdata, hn,
        herr, rfl, of_decide_eq_true (Option.some.inj hbh), hsig⟩
    · rintro ⟨ackData, h, t, data, c, s, hb, hh, ht, hth, htt, hc, rfl, hdata, hn, herr, rfl, hbh,
        hsig⟩
      obtain rfl : c = contentHash crypto ⟨h, t⟩ args :=
        hc.trans (contentHash_eq crypto ⟨h, t⟩ args).symm
      rw [← hcwp] at hdata
      refine ⟨⟨h, t⟩, data, acknowledgement_eq_some.mpr ⟨ackData, hb, hh, ht, hth, htt⟩, hdata,
        hn, herr, rfl, ?_, hsig⟩
      exact (hloose _ hdata).trans (congrArg some (decide_eq_true hbh))
  · rw [signAndSubmitVotes_eq, acknowledge_error board w he]
  · rw [signAndSubmitVotes_eq, acknowledge_null board w hn]
  · rw [signAndSubmitVotes_eq, acknowledge_missing board w hb hn (acknowledgedBoard?_eq_none hfail)]
  · obtain rfl : c = contentHash crypto ⟨h, t⟩ args :=
        hc.trans (contentHash_eq crypto ⟨h, t⟩ args).symm
    obtain rfl : s = voterSignature crypto ⟨h, t⟩ args := hs
    have hack := acknowledge_ok board w
      ((@acknowledgement_eq_some board ⟨h, t⟩).mpr ⟨ackData, hb, hh, ht, hth, htt⟩)
    rw [← hcwp]
    refine ⟨fun e he => ?_, fun hn => ?_, fun data error hd he hte => ?_,
      fun data r hd hn herr hr => ⟨fun hbh => ?_, fun hbh hsig => ?_⟩⟩
    · simp only [signAndSubmitVotes_eq, hack, submit_error board _ he]
    · simp only [signAndSubmitVotes_eq, hack, submit_null board _ hn]
    · simp only [signAndSubmitVotes_eq, hack, submit_serverError board _ hd he hte]
    · obtain rfl : r = receiptOf data := hr
      have hl : looselyEquals? (crypto.hashString (boardHashObject (contentHash crypto ⟨h, t⟩ args)
          (receiptOf data)).stringify) (receiptOf data).boardHash = some false :=
        (hloose _ hd).trans (congrArg some (decide_eq_false hbh))
      simp only [signAndSubmitVotes_eq, hack, submit_ok board _ hd hn herr,
        verifyReceipt_corruptBoardHash crypto _ hl]
    · obtain rfl : r = receiptOf data := hr
      have hl : looselyEquals? (crypto.hashString (boardHashObject (contentHash crypto ⟨h, t⟩ args)
          (receiptOf data)).stringify) (receiptOf data).boardHash = some true :=
        (hloose _ hd).trans (congrArg some (decide_eq_true hbh))
      simp only [signAndSubmitVotes_eq, hack, submit_ok board _ hd hn herr,
        verifyReceipt_corruptServerSignature crypto _ hl hsig]

end Spec

/-! ## Receipts on concrete boards -/

/-- Primitives with an injective `hashString`, the identity, a signature that is the hash, and
a verifier that accepts every signature. -/
def identityHashCrypto : Crypto where
  hashString := id
  generateSchnorrSignature := fun contentHash _ => contentHash
  verifySchnorrSignature := fun _ _ _ => true

/-- A one-contest ballot for voter `v` in election `1`, signed with `key`, whose vote in contest
`1` has cryptogram `c` and the given proof. -/
def oneVoteArgs (key proof : String) : SignAndSubmitArguments where
  voterIdentifier := .ofString "v"
  electionId := 1
  voteEncryptions :=
    ⟨[(.ofString "1", ⟨.ofString "c", .ofString proof⟩)], List.nodup_singleton _⟩
  privateKey := .ofString key
  signatureKey := .ofString "sk"

/-- A submission answer with the previous board hash `p`, time `r`, signature `s`, id `1` and
the given board hash. -/
def receiptData (boardHash : JsonValue) : JsonValue :=
  .object [(.ofString "previousBoardHash", .string (.ofString "p")),
    (.ofString "boardHash", boardHash),
    (.ofString "registeredAt", .string (.ofString "r")),
    (.ofString "serverSignature", .string (.ofString "s")),
    (.ofString "voteSubmissionId", .number 1)]

/-- The board hash that links a content hash after `p` at time `r`. -/
def linkedBoardHash (crypto : Crypto) (contentHash : JsString) : JsString :=
  crypto.hashString (boardHashObject contentHash (receiptOf (receiptData .null))).stringify

/-- A board at hash `h` and time `t` that answers a submission as `answer` says for the content
hash sent. -/
def boardAnswering (answer : JsString → JsonValue) : BulletinBoard where
  getBoardHash := .ok (.object [(.ofString "currentBoardHash", .string (.ofString "h")),
    (.ofString "currentTime", .string (.ofString "t"))])
  submitVotes := fun contentHash _ _ => .ok (answer contentHash)

/-- The content hash of `oneVoteArgs key proof` on the board at `h` and `t`. -/
def oneVoteContentHash (crypto : Crypto) (key proof : String) : JsString :=
  contentHash crypto ⟨.string (.ofString "h"), .string (.ofString "t")⟩ (oneVoteArgs key proof)

/-- A board that answers the linked board hash, and the receipt it issues, which is accepted. -/
theorem honestBoard_accepts_linked_receipt :
    (∀ contentHash signature cryptogramsWithProofs data v,
      (boardAnswering fun c => receiptData (.string (linkedBoardHash identityHashCrypto c))
        ).submitVotes contentHash signature cryptogramsWithProofs = .ok data →
      data.property (.ofString "boardHash") = some v → v = .null ∨ ∃ s, v = .string s) ∧
    ∃ w', signAndSubmitVotes identityHashCrypto
        (boardAnswering fun c => receiptData (.string (linkedBoardHash identityHashCrypto c)))
        (oneVoteArgs "k" "p") (⟨(), []⟩ : World Unit) =
      .ok (receiptOf (receiptData (.string (linkedBoardHash identityHashCrypto
        (oneVoteContentHash identityHashCrypto "k" "p"))))) w' := by
  have hb : ∀ contentHash signature cryptogramsWithProofs data v,
      (boardAnswering fun c => receiptData (.string (linkedBoardHash identityHashCrypto c))
        ).submitVotes contentHash signature cryptogramsWithProofs = .ok data →
      data.property (.ofString "boardHash") = some v → v = .null ∨ ∃ s, v = .string s := by
    rintro contentHash _ _ _ v ⟨⟩ hv
    exact .inr ⟨_, (Option.some.inj hv).symm⟩
  refine ⟨hb, ((signAndSubmitVotes_spec identityHashCrypto _ (oneVoteArgs "k" "p")
    (⟨(), []⟩ : World Unit) hb).1 _).mpr ⟨_, _, _, _, _, _, rfl, rfl, rfl, rfl, rfl, rfl, rfl, rfl,
    (fun h => by cases h), rfl, rfl, rfl, rfl⟩⟩

/-- **The loose check lets a wrapped hash through.** A board that answers, as `boardHash`, the
array holding the recomputed hash has its receipt accepted, though that `boardHash` is no
string; and a board that answers `null` makes the submission throw a `TypeError`. -/
theorem signAndSubmitVotes_accepts_wrapped_hash :
    (∃ w', signAndSubmitVotes identityHashCrypto
        (boardAnswering fun c =>
          receiptData (.array [.string (linkedBoardHash identityHashCrypto c)]))
        (oneVoteArgs "k" "p") (⟨(), []⟩ : World Unit) =
      .ok (receiptOf (receiptData (.array [.string (linkedBoardHash identityHashCrypto
        (oneVoteContentHash identityHashCrypto "k" "p"))]))) w') ∧
    (∀ s, (receiptOf (receiptData (.array [.string (linkedBoardHash identityHashCrypto
        (oneVoteContentHash identityHashCrypto "k" "p"))]))).boardHash ≠ some (.string s)) ∧
    signAndSubmitVotes identityHashCrypto ⟨.ok .null, fun _ _ _ => .ok .null⟩
        (oneVoteArgs "k" "p") (⟨(), []⟩ : World Unit) =
      .error .typeError ⟨(), [.getBoardHash]⟩ :=
  ⟨⟨_, rfl⟩, (fun _ h => by cases h), rfl⟩

end AvClient.SubmitVotes
