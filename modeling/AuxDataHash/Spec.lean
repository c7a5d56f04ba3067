import AuxDataHash.Builder

/-! # What each entry point does

One equation per entry point of `AuxDataHash.Builder`: the call succeeds exactly when its guard holds,
and then gives the builder with the new state and the bytes each context absorbed. Later modules use
these equations and never unfold an entry point.

The guards are the source's `ASSERT`s with the redundant ones dropped: a key or signature of the fixed
size is below `BUFFER_SIZE_PARANOIA`, so its paranoia check and the one inside `APPEND_DATA` always pass.
The bytes are the tokens of the `APPEND_CBOR` calls, in order, with the buffers of the `APPEND_DATA`
calls between them. -/

namespace AuxDataHash.Spec

open AuxDataHash.Cbor AuxDataHash.Builder

/-! ### Absorbing bytes -/

/-- Both contexts absorb `bytes`: the `APPEND_*` calls with both bits set. -/
def absorb (bytes : List UInt8) (b : AuxDataHashBuilder) : AuxDataHashBuilder :=
  { b with auxDataHash := b.auxDataHash ++ bytes,
           cVoteRegistrationData.payloadHash := b.cVoteRegistrationData.payloadHash ++ bytes }

/-- Only the outer context absorbs `bytes`: the `APPEND_*` calls with `HC_AUX_DATA` alone. -/
def absorbAuxData (bytes : List UInt8) (b : AuxDataHashBuilder) : AuxDataHashBuilder :=
  { b with auxDataHash := b.auxDataHash ++ bytes }

@[simp] theorem absorb_absorb (x y : List UInt8) (b : AuxDataHashBuilder) :
    absorb y (absorb x b) = absorb (x ++ y) b := by
  simp [absorb]

@[simp] theorem absorbAuxData_absorbAuxData (x y : List UInt8) (b : AuxDataHashBuilder) :
    absorbAuxData y (absorbAuxData x b) = absorbAuxData (x ++ y) b := by
  simp [absorbAuxData]

@[simp] theorem state_absorb (x : List UInt8) (b : AuxDataHashBuilder) :
    (absorb x b).state = b.state := rfl

@[simp] theorem auxDataHash_absorb (x : List UInt8) (b : AuxDataHashBuilder) :
    (absorb x b).auxDataHash = b.auxDataHash ++ x := rfl

@[simp] theorem cVoteRegistrationData_absorb (x : List UInt8) (b : AuxDataHashBuilder) :
    (absorb x b).cVoteRegistrationData =
      { b.cVoteRegistrationData with payloadHash := b.cVoteRegistrationData.payloadHash ++ x } := rfl

@[simp] theorem state_absorbAuxData (x : List UInt8) (b : AuxDataHashBuilder) :
    (absorbAuxData x b).state = b.state := rfl

@[simp] theorem auxDataHash_absorbAuxData (x : List UInt8) (b : AuxDataHashBuilder) :
    (absorbAuxData x b).auxDataHash = b.auxDataHash ++ x := rfl

@[simp] theorem cVoteRegistrationData_absorbAuxData (x : List UInt8) (b : AuxDataHashBuilder) :
    (absorbAuxData x b).cVoteRegistrationData = b.cVoteRegistrationData := rfl

@[simp] theorem APPEND_CBOR_auxData (type : CborType) (value : Nat) (b : AuxDataHashBuilder) :
    APPEND_CBOR HC_AUX_DATA type value b = absorbAuxData (cbor_writeToken type value) b := by
  simp [APPEND_CBOR, HC_AUX_DATA, HC_CVOTE_REGISTRATION_PAYLOAD, blake2b_256_append_cbor_aux_data,
    absorbAuxData]

@[simp] theorem APPEND_CBOR_payload (type : CborType) (value : Nat) (b : AuxDataHashBuilder) :
    APPEND_CBOR HC_CVOTE_REGISTRATION_PAYLOAD type value b =
      { b with cVoteRegistrationData.payloadHash :=
          b.cVoteRegistrationData.payloadHash ++ cbor_writeToken type value } := by
  simp [APPEND_CBOR, HC_AUX_DATA, HC_CVOTE_REGISTRATION_PAYLOAD, blake2b_256_append_cbor_aux_data]

@[simp] theorem APPEND_CBOR_both (type : CborType) (value : Nat) (b : AuxDataHashBuilder) :
    APPEND_CBOR (HC_AUX_DATA ||| HC_CVOTE_REGISTRATION_PAYLOAD) type value b =
      absorb (cbor_writeToken type value) b := by
  simp [APPEND_CBOR, HC_AUX_DATA, HC_CVOTE_REGISTRATION_PAYLOAD, blake2b_256_append_cbor_aux_data,
    absorb]

@[simp] theorem APPEND_DATA_auxData (buffer : List UInt8) (b : AuxDataHashBuilder) :
    APPEND_DATA HC_AUX_DATA buffer b =
      if buffer.length < BUFFER_SIZE_PARANOIA then some (absorbAuxData buffer b) else none := by
  by_cases h : buffer.length < BUFFER_SIZE_PARANOIA <;>
    simp [APPEND_DATA, HC_AUX_DATA, HC_CVOTE_REGISTRATION_PAYLOAD,
      blake2b_256_append_buffer_aux_data, absorbAuxData, h]

@[simp] theorem APPEND_DATA_both (buffer : List UInt8) (b : AuxDataHashBuilder) :
    APPEND_DATA (HC_AUX_DATA ||| HC_CVOTE_REGISTRATION_PAYLOAD) buffer b =
      if buffer.length < BUFFER_SIZE_PARANOIA then some (absorb buffer b) else none := by
  by_cases h : buffer.length < BUFFER_SIZE_PARANOIA <;>
    simp [APPEND_DATA, HC_AUX_DATA, HC_CVOTE_REGISTRATION_PAYLOAD,
      blake2b_256_append_buffer_aux_data, absorb, h]

/-! ### The fixed sizes pass the paranoia check -/

theorem PUBLIC_KEY_SIZE_lt : PUBLIC_KEY_SIZE < BUFFER_SIZE_PARANOIA := by decide

theorem ED25519_SIGNATURE_LENGTH_lt : ED25519_SIGNATURE_LENGTH < BUFFER_SIZE_PARANOIA := by decide

theorem CVOTE_REGISTRATION_PAYLOAD_HASH_LENGTH_lt :
    CVOTE_REGISTRATION_PAYLOAD_HASH_LENGTH < BUFFER_SIZE_PARANOIA := by decide

/-! ### One equation per entry point -/

theorem init_eq (b : AuxDataHashBuilder) :
    init b = { state := .init, auxDataHash := cbor_writeToken .array 2,
               cVoteRegistrationData := { b.cVoteRegistrationData with payloadHash := [] } } := by
  simp [init]

theorem cVoteRegistration_enter_eq (format : CVoteRegistrationFormat) (b : AuxDataHashBuilder) :
    cVoteRegistration_enter format b =
      if b.state = .init then
        some { state := .inCVoteRegistrationInit,
               auxDataHash := b.auxDataHash ++ cbor_writeToken .map 2,
               cVoteRegistrationData := { b.cVoteRegistrationData with
                 format, payloadHash := b.cVoteRegistrationData.payloadHash ++ cbor_writeToken .map 1 } }
      else none := by
  cases format <;> simp [absorbAuxData, cVoteRegistration_enter]

theorem cVoteRegistration_enterPayload_eq (b : AuxDataHashBuilder) :
    cVoteRegistration_enterPayload b =
      if b.state = .inCVoteRegistrationInit then
        some (absorb (cbor_writeToken .unsigned METADATA_KEY_CVOTE_REGISTRATION_PAYLOAD ++
            cbor_writeToken .map (if b.cVoteRegistrationData.format = .CIP36 then 5 else 4))
          { b with state := .inCVoteRegistrationPayloadInit })
      else none := by
  simp [absorb, cVoteRegistration_enterPayload]

theorem cVoteRegistration_addVoteKey_eq (votePubKey : List UInt8) (b : AuxDataHashBuilder) :
    cVoteRegistration_addVoteKey votePubKey b =
      if b.state = .inCVoteRegistrationPayloadInit ∧ votePubKey.length = PUBLIC_KEY_SIZE then
        some (absorb (cbor_writeToken .unsigned CVOTE_REGISTRATION_PAYLOAD_KEY_VOTE_KEY ++
            cbor_writeToken .bytes votePubKey.length ++ votePubKey)
          { b with state := .inCVoteRegistrationPayloadVoteKey })
      else none := by
  by_cases hk : votePubKey.length = PUBLIC_KEY_SIZE
  · simp [absorb, cVoteRegistration_addVoteKey, hk, PUBLIC_KEY_SIZE_lt]
  · simp [cVoteRegistration_addVoteKey, hk]

theorem cVoteRegistration_enterDelegations_eq (numDelegations : UInt32) (b : AuxDataHashBuilder) :
    cVoteRegistration_enterDelegations numDelegations b =
      if b.state = .inCVoteRegistrationPayloadInit then
        some (absorb (cbor_writeToken .unsigned CVOTE_REGISTRATION_PAYLOAD_KEY_VOTE_KEY ++
            cbor_writeToken .array numDelegations.toNat)
          { b with state := .inCVoteRegistrationPayloadDelegations,
                   cVoteRegistrationData.remainingDelegations := numDelegations })
      else none := by
  simp [absorb, cVoteRegistration_enterDelegations]

theorem cVoteRegistration_addDelegation_eq (votePubKey : List UInt8) (weight : UInt32)
    (b : AuxDataHashBuilder) :
    cVoteRegistration_addDelegation votePubKey weight b =
      if b.state = .inCVoteRegistrationPayloadDelegations ∧
          0 < b.cVoteRegistrationData.remainingDelegations ∧ votePubKey.length = PUBLIC_KEY_SIZE then
        some (absorb (cbor_writeToken .array 2 ++ cbor_writeToken .bytes votePubKey.length ++
            votePubKey ++ cbor_writeToken .unsigned weight.toNat)
          { b with cVoteRegistrationData.remainingDelegations :=
                     b.cVoteRegistrationData.remainingDelegations - 1 })
      else none := by
  by_cases hk : votePubKey.length = PUBLIC_KEY_SIZE
  · simp [absorb, cVoteRegistration_addDelegation, hk, PUBLIC_KEY_SIZE_lt]
    split_ifs <;> simp_all
  · simp [cVoteRegistration_addDelegation, hk]

theorem stakingKeyAllowed_eq_some (b : AuxDataHashBuilder) :
    stakingKeyAllowed b = some () ↔
      b.state = .inCVoteRegistrationPayloadVoteKey ∨
        (b.state = .inCVoteRegistrationPayloadDelegations ∧
          b.cVoteRegistrationData.remainingDelegations = 0) := by
  unfold stakingKeyAllowed ASSERT
  split <;> simp_all

theorem cVoteRegistration_addStakingKey_eq (stakingPubKey : List UInt8) (b : AuxDataHashBuilder) :
    cVoteRegistration_addStakingKey stakingPubKey b =
      if (b.state = .inCVoteRegistrationPayloadVoteKey ∨
          (b.state = .inCVoteRegistrationPayloadDelegations ∧
            b.cVoteRegistrationData.remainingDelegations = 0)) ∧
          stakingPubKey.length = PUBLIC_KEY_SIZE then
        some (absorb (cbor_writeToken .unsigned CVOTE_REGISTRATION_PAYLOAD_KEY_STAKING_KEY ++
            cbor_writeToken .bytes stakingPubKey.length ++ stakingPubKey)
          { b with state := .inCVoteRegistrationPayloadStakingKey })
      else none := by
  unfold cVoteRegistration_addStakingKey
  cases h : stakingKeyAllowed b with
  | none =>
    have hn := mt (stakingKeyAllowed_eq_some b).mpr (by simp [h])
    simp [if_neg (fun hc : _ ∧ _ => hn hc.1)]
  | some u =>
    have hs := (stakingKeyAllowed_eq_some b).mp h
    by_cases hk : stakingPubKey.length = PUBLIC_KEY_SIZE
    · simp [absorb, hs, hk, PUBLIC_KEY_SIZE_lt]
    · simp [hk]

theorem cVoteRegistration_addPaymentAddress_eq (address : List UInt8) (b : AuxDataHashBuilder) :
    cVoteRegistration_addPaymentAddress address b =
      if 0 < address.length ∧ address.length < BUFFER_SIZE_PARANOIA ∧
          b.state = .inCVoteRegistrationPayloadStakingKey then
        some (absorb (cbor_writeToken .unsigned CVOTE_REGISTRATION_PAYLOAD_PAYMENT_ADDRESS ++
            cbor_writeToken .bytes address.length ++ address)
          { b with state := .inCVoteRegistrationPayloadPaymentAddress })
      else none := by
  by_cases h0 : 0 < address.length <;> by_cases ha : address.length < BUFFER_SIZE_PARANOIA <;>
    simp [absorb, cVoteRegistration_addPaymentAddress, h0, ha]

theorem cVoteRegistration_addNonce_eq (nonce : UInt64) (b : AuxDataHashBuilder) :
    cVoteRegistration_addNonce nonce b =
      if b.state = .inCVoteRegistrationPayloadPaymentAddress then
        some (absorb (cbor_writeToken .unsigned CVOTE_REGISTRATION_PAYLOAD_KEY_NONCE ++
            cbor_writeToken .unsigned nonce.toNat)
          { b with state := .inCVoteRegistrationPayloadNonce })
      else none := by
  simp [absorb, cVoteRegistration_addNonce]

theorem cVoteRegistration_addVotingPurpose_eq (votingPurpose : UInt64) (b : AuxDataHashBuilder) :
    cVoteRegistration_addVotingPurpose votingPurpose b =
      if b.state = .inCVoteRegistrationPayloadNonce then
        some (absorb (cbor_writeToken .unsigned CVOTE_REGISTRATION_PAYLOAD_VOTING_PURPOSE ++
            cbor_writeToken .unsigned votingPurpose.toNat)
          { b with state := .inCVoteRegistrationPayloadVotingPurpose })
      else none := by
  simp [absorb, cVoteRegistration_addVotingPurpose]

theorem cVoteRegistration_finalizePayload_eq (outSize : UInt32) (b : AuxDataHashBuilder) :
    cVoteRegistration_finalizePayload outSize b =
      if (b.state = .inCVoteRegistrationPayloadNonce ∨
          b.state = .inCVoteRegistrationPayloadVotingPurpose) ∧
          outSize.toNat = CVOTE_REGISTRATION_PAYLOAD_HASH_LENGTH then
        some b.cVoteRegistrationData.payloadHash
      else none := by
  by_cases ho : outSize.toNat = CVOTE_REGISTRATION_PAYLOAD_HASH_LENGTH
  · simp [cVoteRegistration_finalizePayload, ho, CVOTE_REGISTRATION_PAYLOAD_HASH_LENGTH_lt]
  · simp [cVoteRegistration_finalizePayload, ho]

theorem cVoteRegistration_addSignature_eq (signature : List UInt8) (b : AuxDataHashBuilder) :
    cVoteRegistration_addSignature signature b =
      if (b.state = .inCVoteRegistrationPayloadNonce ∨
          b.state = .inCVoteRegistrationPayloadVotingPurpose) ∧
          signature.length = ED25519_SIGNATURE_LENGTH then
        some (absorbAuxData (cbor_writeToken .unsigned METADATA_KEY_CVOTE_REGISTRATION_SIGNATURE ++
            cbor_writeToken .map 1 ++ cbor_writeToken .unsigned CVOTE_REGISTRATION_SIGNATURE_KEY ++
            cbor_writeToken .bytes signature.length ++ signature)
          { b with state := .inCVoteRegistrationSignature })
      else none := by
  by_cases hs : signature.length = ED25519_SIGNATURE_LENGTH
  · simp [absorbAuxData, cVoteRegistration_addSignature, hs, ED25519_SIGNATURE_LENGTH_lt]
  · simp [cVoteRegistration_addSignature, hs]

theorem cVoteRegistration_addAuxiliaryScripts_eq (b : AuxDataHashBuilder) :
    cVoteRegistration_addAuxiliaryScripts b =
      if b.state = .inCVoteRegistrationSignature then
        some (absorbAuxData (cbor_writeToken .array 0) { b with state := .inAuxiliaryScripts })
      else none := by
  simp [absorbAuxData, cVoteRegistration_addAuxiliaryScripts]

theorem finalize_eq (outSize : UInt32) (b : AuxDataHashBuilder) :
    finalize outSize b =
      if b.state = .inAuxiliaryScripts ∧ outSize.toNat = AUX_DATA_HASH_LENGTH then
        some ({ b with state := .finished }, b.auxDataHash)
      else none := by
  by_cases ho : outSize.toNat = AUX_DATA_HASH_LENGTH <;> simp [finalize, ho]

end AuxDataHash.Spec
