import AuxDataHash.Delegations

/-! # Registrations and their call sequences

A `Registration` holds the arguments of one complete call sequence: the format, the vote key or the
delegations, the staking key, the payment address, the nonce, the voting purpose if there is one and the
signature. `Registration.calls r before after` is the sequence the builder accepts for it, with `before`
`finalizePayload` calls after the nonce and `after` more after the voting purpose; the call sequences
of the spec's grammar are the ones with a single `finalizePayload` right before `addSignature`.

The value the registration stands for is a CBOR item (`auxDataItem`: `[{61284: payload,
61285: {1: signature}}, []]`), and the payload digest is taken over `signedPayloadItem`
(`{61284: payload}`).

* `run_calls`: the builder accepts `r.calls before after` for every valid `r`, ending with the outer
  context holding `array(2) map(2) 61284 map(m) entries 61285 {1: signature} []` and the inner one
  `map(1) 61284 map(m) entries`, where `m` is 5 for CIP-36 and 4 otherwise and `entries` are the
  payload entries of `r`. -/

namespace AuxDataHash.Registrations

open AuxDataHash.Cbor AuxDataHash.Builder AuxDataHash.Spec AuxDataHash.Run AuxDataHash.TwoContexts
open AuxDataHash.Delegations

/-! ### Registrations -/

/-- The vote-key field as the calls give it: one vote key, or `n` weighted delegations. -/
inductive VoteKeyField where
  | voteKey (votePubKey : List UInt8)
  | delegations (numDelegations : UInt32) (delegations : List (List UInt8 × UInt32))
  deriving DecidableEq, Repr

/-- The calls of the vote-key field. -/
def VoteKeyField.calls : VoteKeyField → List Call
  | .voteKey votePubKey => [.addVoteKey votePubKey]
  | .delegations numDelegations ds => .enterDelegations numDelegations :: delegationCalls ds

/-- Keys of the public-key size, and as many delegations as announced. -/
def VoteKeyField.Valid : VoteKeyField → Prop
  | .voteKey votePubKey => votePubKey.length = PUBLIC_KEY_SIZE
  | .delegations numDelegations ds =>
    ds.length = numDelegations.toNat ∧ ∀ d ∈ ds, d.1.length = PUBLIC_KEY_SIZE

/-- The arguments of one complete registration. -/
structure Registration where
  format : CVoteRegistrationFormat
  vote : VoteKeyField
  stakingPubKey : List UInt8
  address : List UInt8
  nonce : UInt64
  votingPurpose : Option UInt64
  signature : List UInt8
  deriving DecidableEq, Repr

/-- The arguments the builder accepts. -/
structure Registration.Valid (r : Registration) : Prop where
  vote : r.vote.Valid
  stakingPubKey : r.stakingPubKey.length = PUBLIC_KEY_SIZE
  address_pos : 0 < r.address.length
  address_lt : r.address.length < BUFFER_SIZE_PARANOIA
  signature : r.signature.length = ED25519_SIGNATURE_LENGTH

/-- `count` calls of `finalizePayload` with a digest-sized output buffer. -/
def finalizePayloads (count : Nat) : List Call := List.replicate count (.finalizePayload 32)

/-- The calls up to the vote-key field. -/
def Registration.headCalls (r : Registration) : List Call :=
  [.enter r.format, .enterPayload] ++ r.vote.calls

/-- The calls up to the nonce. -/
def Registration.payloadCalls (r : Registration) : List Call :=
  r.headCalls ++ [.addStakingKey r.stakingPubKey, .addPaymentAddress r.address, .addNonce r.nonce]

/-- The voting purpose, if any, and the `finalizePayload` calls after it. -/
def Registration.votingPurposeCalls (r : Registration) (after : Nat) : List Call :=
  match r.votingPurpose with
  | none => []
  | some votingPurpose => .addVotingPurpose votingPurpose :: finalizePayloads after

/-- The calls of the signature, the script list and the final digest. -/
def Registration.closingCalls (r : Registration) : List Call :=
  [.addSignature r.signature, .addAuxiliaryScripts, .finalize 32]

/-- **A complete call sequence** for `r`. -/
def Registration.calls (r : Registration) (before after : Nat) : List Call :=
  r.payloadCalls ++ finalizePayloads before ++ r.votingPurposeCalls after ++ r.closingCalls

/-! ### The value a registration stands for -/

/-- The value of the vote-key field: the key, or the list of `[key, weight]` pairs. -/
def VoteKeyField.item : VoteKeyField → CborItem
  | .voteKey votePubKey => .bytes votePubKey
  | .delegations _ ds => .array (ds.map fun d => .array [.bytes d.1, .unsigned d.2.toNat])

/-- The four payload entries every registration has. -/
def Registration.fieldEntries (r : Registration) : List (CborItem × CborItem) :=
  [(.unsigned CVOTE_REGISTRATION_PAYLOAD_KEY_VOTE_KEY, r.vote.item),
   (.unsigned CVOTE_REGISTRATION_PAYLOAD_KEY_STAKING_KEY, .bytes r.stakingPubKey),
   (.unsigned CVOTE_REGISTRATION_PAYLOAD_PAYMENT_ADDRESS, .bytes r.address),
   (.unsigned CVOTE_REGISTRATION_PAYLOAD_KEY_NONCE, .unsigned r.nonce.toNat)]

/-- The voting-purpose entry, if any. -/
def Registration.votingPurposeEntries (r : Registration) : List (CborItem × CborItem) :=
  match r.votingPurpose with
  | none => []
  | some votingPurpose =>
    [(.unsigned CVOTE_REGISTRATION_PAYLOAD_VOTING_PURPOSE, .unsigned votingPurpose.toNat)]

/-- The registration payload map. -/
def Registration.payloadItem (r : Registration) : CborItem :=
  .map (r.fieldEntries ++ r.votingPurposeEntries)

/-- The data the payload signature is over: `{61284: payload}`. -/
def Registration.signedPayloadItem (r : Registration) : CborItem :=
  .map [(.unsigned METADATA_KEY_CVOTE_REGISTRATION_PAYLOAD, r.payloadItem)]

/-- The voting purpose is there exactly for CIP-36, the format whose payload map `enterPayload`
announces with 5 entries. -/
def Registration.FormatConsistent (r : Registration) : Prop :=
  r.votingPurpose.isSome ↔ r.format = .CIP36

instance (r : Registration) : Decidable r.FormatConsistent :=
  inferInstanceAs (Decidable (_ ↔ _))

/-- The auxiliary data: `[{61284: payload, 61285: {1: signature}}, []]`. -/
def Registration.auxDataItem (r : Registration) : CborItem :=
  .array [.map [(.unsigned METADATA_KEY_CVOTE_REGISTRATION_PAYLOAD, r.payloadItem),
      (.unsigned METADATA_KEY_CVOTE_REGISTRATION_SIGNATURE,
        .map [(.unsigned CVOTE_REGISTRATION_SIGNATURE_KEY, .bytes r.signature)])],
    .array []]

/-! ### Running a registration's calls -/

/-- The payload label and the payload map header of format `f`: 5 entries for CIP-36, 4 otherwise. -/
def payloadHeader (f : CVoteRegistrationFormat) : List UInt8 :=
  (CborItem.unsigned METADATA_KEY_CVOTE_REGISTRATION_PAYLOAD).encode ++
    cbor_writeToken .map (if f = .CIP36 then 5 else 4)

theorem encodeItems_delegations {ds : List (List UInt8 × UInt32)}
    (hkeys : ∀ d ∈ ds, d.1.length = PUBLIC_KEY_SIZE) :
    encodeItems (ds.map fun d => .array [.bytes d.1, .unsigned d.2.toNat]) =
      ds.flatMap delegationBytes := by
  induction ds with
  | nil => rfl
  | cons d ds ih =>
    simp only [List.forall_mem_cons] at hkeys
    simp [ih hkeys.2, delegationBytes, hkeys.1]

theorem run_head (b : AuxDataHashBuilder) (f : CVoteRegistrationFormat) :
    ∃ b₁, run (init b) [.enter f, .enterPayload] = some (b₁, [none, none]) ∧
      b₁.state = .inCVoteRegistrationPayloadInit ∧ Framed b₁ (payloadHeader f) [] := by
  simp [run_cons, step, init_eq, cVoteRegistration_enter_eq, cVoteRegistration_enterPayload_eq,
    Framed, payloadHeader]

theorem run_vote {b : AuxDataHashBuilder} {P : List UInt8} {v : VoteKeyField}
    (hs : b.state = .inCVoteRegistrationPayloadInit) (hb : Framed b P []) (hv : v.Valid) :
    ∃ b₁ outs, run b v.calls = some (b₁, outs) ∧ stakingKeyAllowed b₁ = some () ∧
      Framed b₁ (P ++ encodeEntries [(.unsigned CVOTE_REGISTRATION_PAYLOAD_KEY_VOTE_KEY, v.item)])
        [] := by
  cases v with
  | voteKey k =>
    have hk : k.length = PUBLIC_KEY_SIZE := hv
    simp [VoteKeyField.calls, VoteKeyField.item, run_cons, step, cVoteRegistration_addVoteKey_eq, hs,
      hk, stakingKeyAllowed_eq_some, Framed, hb.1, hb.2]
  | delegations n ds =>
    obtain ⟨hlen, hkeys⟩ := hv
    set b₁ := absorb (cbor_writeToken .unsigned CVOTE_REGISTRATION_PAYLOAD_KEY_VOTE_KEY ++
        cbor_writeToken .array n.toNat)
      { b with state := .inCVoteRegistrationPayloadDelegations,
               cVoteRegistrationData.remainingDelegations := n }
    have h₁ : step b (.enterDelegations n) = some (b₁, none) := by
      simp [step, cVoteRegistration_enterDelegations_eq, hs, b₁]
    obtain ⟨r, hr⟩ := Option.isSome_iff_exists.mp
      (run_delegationCalls_isSome (b := b₁) rfl hkeys (by simp [b₁, hlen]))
    obtain ⟨-, hrem, hs₂, -, hA, hP⟩ := run_delegationCalls rfl hr
    refine ⟨r.1, none :: r.2, by simp [VoteKeyField.calls, run_cons, h₁, hr],
      (stakingKeyAllowed_eq_some _).mpr
        (Or.inr ⟨hs₂, (eq_zero_iff_toNat_eq_zero _).mpr (by simpa [b₁, hlen] using hrem)⟩), ?_, ?_⟩
    · simp [hP, b₁, hb.1, VoteKeyField.item, encodeItems_delegations hkeys, hlen]
    · simp [hA, b₁, hb.2, VoteKeyField.item, encodeItems_delegations hkeys, hlen]

theorem run_fields {b : AuxDataHashBuilder} {P : List UInt8} (r : Registration)
    (hs : stakingKeyAllowed b = some ()) (hb : Framed b P []) (hr : r.Valid) :
    ∃ b₁, run b [.addStakingKey r.stakingPubKey, .addPaymentAddress r.address, .addNonce r.nonce] =
        some (b₁, [none, none, none]) ∧ b₁.state = .inCVoteRegistrationPayloadNonce ∧
      Framed b₁ (P ++ encodeEntries (r.fieldEntries.drop 1)) [] := by
  rw [stakingKeyAllowed_eq_some] at hs
  simp [run_cons, step, cVoteRegistration_addStakingKey_eq, cVoteRegistration_addPaymentAddress_eq,
    cVoteRegistration_addNonce_eq, hs, hr.stakingPubKey, hr.address_pos, hr.address_lt,
    Registration.fieldEntries, Framed, hb.1, hb.2]

/-- `finalizePayload` calls change nothing. -/
theorem run_finalizePayloads {b : AuxDataHashBuilder} (count : Nat)
    (hs : b.state = .inCVoteRegistrationPayloadNonce ∨
      b.state = .inCVoteRegistrationPayloadVotingPurpose) :
    run b (finalizePayloads count) =
      some (b, List.replicate count (some b.cVoteRegistrationData.payloadHash)) := by
  induction count with
  | zero => rfl
  | succ count ih =>
    simp [finalizePayloads, List.replicate_succ, run_cons, step, cVoteRegistration_finalizePayload_eq,
      hs, CVOTE_REGISTRATION_PAYLOAD_HASH_LENGTH] at ih ⊢
    exact ih

theorem run_votingPurposeCalls {b : AuxDataHashBuilder} {P : List UInt8} (r : Registration)
    (after : Nat) (hs : b.state = .inCVoteRegistrationPayloadNonce) (hb : Framed b P []) :
    ∃ b₁ outs, run b (r.votingPurposeCalls after) = some (b₁, outs) ∧
      (b₁.state = .inCVoteRegistrationPayloadNonce ∨
        b₁.state = .inCVoteRegistrationPayloadVotingPurpose) ∧
      Framed b₁ (P ++ encodeEntries r.votingPurposeEntries) [] := by
  unfold Registration.votingPurposeCalls Registration.votingPurposeEntries
  split
  · exact ⟨b, [], rfl, .inl hs, by simpa using hb⟩
  · rename_i v _
    set b₁ := absorb (cbor_writeToken .unsigned CVOTE_REGISTRATION_PAYLOAD_VOTING_PURPOSE ++
        cbor_writeToken .unsigned v.toNat) { b with state := .inCVoteRegistrationPayloadVotingPurpose }
    have h₁ : step b (.addVotingPurpose v) = some (b₁, none) := by
      simp [step, cVoteRegistration_addVotingPurpose_eq, hs, b₁]
    refine ⟨b₁, _, by simp [run_cons, h₁, run_finalizePayloads (b := b₁) after (.inr rfl)]; rfl,
      .inr rfl, ?_⟩
    simpa using framed_absorb hb

theorem run_closingCalls {b : AuxDataHashBuilder} {P : List UInt8} (r : Registration)
    (hs : b.state = .inCVoteRegistrationPayloadNonce ∨
      b.state = .inCVoteRegistrationPayloadVotingPurpose)
    (hb : Framed b P []) (hsig : r.signature.length = ED25519_SIGNATURE_LENGTH) :
    ∃ b₁, run b r.closingCalls = some (b₁, [none, none, some b₁.auxDataHash]) ∧
      b₁.state = .finished ∧ Framed b₁ P (signatureTail r.signature ++ cbor_writeToken .array 0) := by
  simp [Registration.closingCalls, run_cons, step, cVoteRegistration_addSignature_eq,
    cVoteRegistration_addAuxiliaryScripts_eq, finalize_eq, hs, hsig, AUX_DATA_HASH_LENGTH, Framed,
    hb.1, hb.2, signatureTail, and_assoc]

/-- The calls up to the nonce leave the four fields framed in both contexts. -/
theorem run_payloadCalls (b : AuxDataHashBuilder) {r : Registration} (hr : r.Valid) :
    ∃ b₁ outs, run (init b) r.payloadCalls = some (b₁, outs) ∧
      b₁.state = .inCVoteRegistrationPayloadNonce ∧
      Framed b₁ (payloadHeader r.format ++ encodeEntries r.fieldEntries) [] := by
  obtain ⟨b₁, h₁, hs₁, hb₁⟩ := run_head b r.format
  obtain ⟨b₂, o₂, h₂, hs₂, hb₂⟩ := run_vote hs₁ hb₁ hr.vote
  obtain ⟨b₃, h₃, hs₃, hb₃⟩ := run_fields r hs₂ hb₂ hr
  refine ⟨b₃, _, run_append_of_eq_some (run_append_of_eq_some h₁ h₂) h₃, hs₃, ?_⟩
  simpa [Registration.fieldEntries] using hb₃

/-- **A valid registration is accepted**, with any number of `finalizePayload` calls around the
voting purpose, and leaves its entries framed in both contexts. -/
theorem run_calls (b : AuxDataHashBuilder) {r : Registration} (hr : r.Valid) (before after : Nat) :
    ∃ bf outs, run (init b) (r.calls before after) = some (bf, outs) ∧ bf.state = .finished ∧
      Framed bf (payloadHeader r.format ++ encodeEntries (r.fieldEntries ++ r.votingPurposeEntries))
        (signatureTail r.signature ++ cbor_writeToken .array 0) := by
  obtain ⟨b₃, o₃, h₃, hs₃, hb₃⟩ := run_payloadCalls b hr
  have h₄ := run_finalizePayloads (b := b₃) before (.inl hs₃)
  obtain ⟨b₅, o₅, h₅, hs₅, hb₅⟩ := run_votingPurposeCalls r after hs₃ hb₃
  obtain ⟨b₆, h₆, hs₆, hb₆⟩ := run_closingCalls r hs₅ hb₅ hr.signature
  refine ⟨b₆, _, run_append_of_eq_some (run_append_of_eq_some (run_append_of_eq_some h₃ h₄) h₅) h₆,
    hs₆, ?_⟩
  simpa [encodeEntries_append] using hb₆

end AuxDataHash.Registrations
