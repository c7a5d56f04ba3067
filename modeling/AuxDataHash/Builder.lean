import AuxDataHash.Cbor

/-! # The auxiliary-data hash builder

The builder of auxDataHashBuilder.c: one function per entry point, each taking the builder and the call's
arguments and giving the new builder, or `none` when an `ASSERT` fails (a failed assertion aborts the
whole signing operation). A byte buffer with its size is a `List UInt8`; a `size_t` is a `UInt32`, the
width of `size_t` on the device (messageSigning.c asserts `sizeof(int) == sizeof(size_t)`).

A blake2b-256 context is modelled by the message it has absorbed: the hash primitive is external, and
what every statement is about is the byte stream each context is fed. A finalizing entry point gives the
message it digests into its output buffer.

The header with the state enum, the builder record, the format enum and the numeric constants is not in
src/; those are modelled from the spec and from the source's own comments. -/

namespace AuxDataHash.Builder

open AuxDataHash.Cbor

/-! ### Constants -/

/-- The outer hash context of the whole auxiliary data. -/
def HC_AUX_DATA : Nat := 1 <<< 0

/-- The inner hash context of the CIP-36 registration payload. -/
def HC_CVOTE_REGISTRATION_PAYLOAD : Nat := 1 <<< 1

/-- Modelled from the spec: the metadata label of the registration payload (61284, as the source's
comment in `cVoteRegistration_enter` says). -/
def METADATA_KEY_CVOTE_REGISTRATION_PAYLOAD : Nat := 61284

/-- Modelled from the spec: the metadata label of the registration signature (61285). -/
def METADATA_KEY_CVOTE_REGISTRATION_SIGNATURE : Nat := 61285

/-- Modelled from the spec: the payload key of the vote key or the delegations. -/
def CVOTE_REGISTRATION_PAYLOAD_KEY_VOTE_KEY : Nat := 1

/-- Modelled from the spec: the payload key of the staking key. -/
def CVOTE_REGISTRATION_PAYLOAD_KEY_STAKING_KEY : Nat := 2

/-- Modelled from the spec: the payload key of the payment address. -/
def CVOTE_REGISTRATION_PAYLOAD_PAYMENT_ADDRESS : Nat := 3

/-- Modelled from the spec: the payload key of the nonce. -/
def CVOTE_REGISTRATION_PAYLOAD_KEY_NONCE : Nat := 4

/-- Modelled from the spec: the payload key of the voting purpose. -/
def CVOTE_REGISTRATION_PAYLOAD_VOTING_PURPOSE : Nat := 5

/-- Modelled from the spec: the key of the signature in the signature map. -/
def CVOTE_REGISTRATION_SIGNATURE_KEY : Nat := 1

/-- Modelled from the spec: the size of an Ed25519 public key. -/
def PUBLIC_KEY_SIZE : Nat := 32

/-- The size of an Ed25519 signature (the 64-byte signature buffer of messageSigning.c). -/
def ED25519_SIGNATURE_LENGTH : Nat := 64

/-- Modelled from the spec: both digests are 32 bytes. -/
def CVOTE_REGISTRATION_PAYLOAD_HASH_LENGTH : Nat := 32

/-- Modelled from the spec: both digests are 32 bytes. -/
def AUX_DATA_HASH_LENGTH : Nat := 32

/-- Modelled from the spec: the fixed generous ceiling on any buffer length. -/
def BUFFER_SIZE_PARANOIA : Nat := 1024

/-! ### The builder record -/

/-- Modelled from the spec: `cvote_registration_format_t`, CIP-36 (five payload fields, with the voting
purpose) or CIP-15 (four). -/
inductive CVoteRegistrationFormat where
  | CIP15
  | CIP36
  deriving DecidableEq, Repr

/-- Modelled from the spec: the builder's position in the encoding, `AUX_DATA_HASH_BUILDER_*`. -/
inductive AuxDataHashBuilderState where
  | init
  | inCVoteRegistrationInit
  | inCVoteRegistrationPayloadInit
  | inCVoteRegistrationPayloadVoteKey
  | inCVoteRegistrationPayloadDelegations
  | inCVoteRegistrationPayloadStakingKey
  | inCVoteRegistrationPayloadPaymentAddress
  | inCVoteRegistrationPayloadNonce
  | inCVoteRegistrationPayloadVotingPurpose
  | inCVoteRegistrationSignature
  | inAuxiliaryScripts
  | finished
  deriving DecidableEq, Repr

/-- Modelled from the spec: `cVoteRegistrationData`, the format, the delegation countdown and the
payload hash context. -/
structure CVoteRegistrationData where
  format : CVoteRegistrationFormat
  remainingDelegations : UInt32
  payloadHash : List UInt8
  deriving DecidableEq, Repr

/-- Modelled from the spec: `aux_data_hash_builder_t`. -/
structure AuxDataHashBuilder where
  state : AuxDataHashBuilderState
  auxDataHash : List UInt8
  cVoteRegistrationData : CVoteRegistrationData
  deriving DecidableEq, Repr

/-! ### Hash computation utilities -/

/-- `ASSERT`: `none` aborts the operation. -/
def ASSERT (cond : Prop) [Decidable cond] : Option Unit := if cond then some () else none

@[simp] theorem ASSERT_bind {α : Type} (cond : Prop) [Decidable cond] (k : Unit → Option α) :
    ASSERT cond >>= k = if cond then k () else none := by
  unfold ASSERT; split <;> rfl

/-- `blake2b_256_append_cbor_aux_data`: append one token. The trace flag only drives tracing. -/
def blake2b_256_append_cbor_aux_data (hashCtx : List UInt8) (type : CborType) (value : Nat) :
    List UInt8 :=
  hashCtx ++ cbor_writeToken type value

/-- `blake2b_256_append_buffer_aux_data`: append raw bytes, below the paranoia bound. -/
def blake2b_256_append_buffer_aux_data (hashCtx buffer : List UInt8) : Option (List UInt8) := do
  ASSERT (buffer.length < BUFFER_SIZE_PARANOIA)
  pure (hashCtx ++ buffer)

/-- `APPEND_CBOR`: append a token to each context whose bit is set in `hashContexts`. -/
def APPEND_CBOR (hashContexts : Nat) (type : CborType) (value : Nat) (builder : AuxDataHashBuilder) :
    AuxDataHashBuilder :=
  let builder := if hashContexts &&& HC_AUX_DATA ≠ 0 then
      { builder with auxDataHash := blake2b_256_append_cbor_aux_data builder.auxDataHash type value }
    else builder
  if hashContexts &&& HC_CVOTE_REGISTRATION_PAYLOAD ≠ 0 then
      { builder with cVoteRegistrationData.payloadHash :=
          blake2b_256_append_cbor_aux_data builder.cVoteRegistrationData.payloadHash type value }
    else builder

/-- `APPEND_DATA`: append a buffer to each context whose bit is set in `hashContexts`. -/
def APPEND_DATA (hashContexts : Nat) (buffer : List UInt8) (builder : AuxDataHashBuilder) :
    Option AuxDataHashBuilder := do
  let builder ← if hashContexts &&& HC_AUX_DATA ≠ 0 then do
      let auxDataHash ← blake2b_256_append_buffer_aux_data builder.auxDataHash buffer
      pure { builder with auxDataHash }
    else pure builder
  if hashContexts &&& HC_CVOTE_REGISTRATION_PAYLOAD ≠ 0 then do
      let payloadHash ←
        blake2b_256_append_buffer_aux_data builder.cVoteRegistrationData.payloadHash buffer
      pure { builder with cVoteRegistrationData.payloadHash := payloadHash }
    else pure builder

/-! ### Entry points -/

/-- `auxDataHashBuilder_init`: reset both contexts and open the outer array of two. -/
def init (builder : AuxDataHashBuilder) : AuxDataHashBuilder :=
  let builder := { builder with auxDataHash := [], cVoteRegistrationData.payloadHash := [] }
  let builder := APPEND_CBOR HC_AUX_DATA .array 2 builder
  { builder with state := .init }

/-- `auxDataHashBuilder_cVoteRegistration_enter`. The format is stored before the state is checked. -/
def cVoteRegistration_enter (format : CVoteRegistrationFormat) (builder : AuxDataHashBuilder) :
    Option AuxDataHashBuilder := do
  ASSERT (format = .CIP15 ∨ format = .CIP36)
  let builder := { builder with cVoteRegistrationData.format := format }
  ASSERT (builder.state = .init)
  -- the completed auxiliary data has a map with the two entries 61284 and 61285,
  -- the signed data a map with the single entry 61284
  let builder := APPEND_CBOR HC_AUX_DATA .map 2 builder
  let builder := APPEND_CBOR HC_CVOTE_REGISTRATION_PAYLOAD .map 1 builder
  pure { builder with state := .inCVoteRegistrationInit }

/-- `auxDataHashBuilder_cVoteRegistration_enterPayload`: the payload map has 5 entries for CIP-36, 4
otherwise. -/
def cVoteRegistration_enterPayload (builder : AuxDataHashBuilder) : Option AuxDataHashBuilder := do
  ASSERT (builder.state = .inCVoteRegistrationInit)
  let mapSize := if builder.cVoteRegistrationData.format = .CIP36 then 5 else 4
  let builder := APPEND_CBOR (HC_AUX_DATA ||| HC_CVOTE_REGISTRATION_PAYLOAD) .unsigned
    METADATA_KEY_CVOTE_REGISTRATION_PAYLOAD builder
  let builder := APPEND_CBOR (HC_AUX_DATA ||| HC_CVOTE_REGISTRATION_PAYLOAD) .map mapSize builder
  pure { builder with state := .inCVoteRegistrationPayloadInit }

/-- `auxDataHashBuilder_cVoteRegistration_addVoteKey`. -/
def cVoteRegistration_addVoteKey (votePubKey : List UInt8) (builder : AuxDataHashBuilder) :
    Option AuxDataHashBuilder := do
  ASSERT (votePubKey.length < BUFFER_SIZE_PARANOIA)
  ASSERT (builder.state = .inCVoteRegistrationPayloadInit)
  let builder := APPEND_CBOR (HC_AUX_DATA ||| HC_CVOTE_REGISTRATION_PAYLOAD) .unsigned
    CVOTE_REGISTRATION_PAYLOAD_KEY_VOTE_KEY builder
  ASSERT (votePubKey.length = PUBLIC_KEY_SIZE)
  let builder := APPEND_CBOR (HC_AUX_DATA ||| HC_CVOTE_REGISTRATION_PAYLOAD) .bytes
    votePubKey.length builder
  let builder ← APPEND_DATA (HC_AUX_DATA ||| HC_CVOTE_REGISTRATION_PAYLOAD) votePubKey builder
  pure { builder with state := .inCVoteRegistrationPayloadVoteKey }

/-- `auxDataHashBuilder_cVoteRegistration_enterDelegations`. The countdown is stored before the state
is checked. -/
def cVoteRegistration_enterDelegations (numDelegations : UInt32) (builder : AuxDataHashBuilder) :
    Option AuxDataHashBuilder := do
  let builder := { builder with cVoteRegistrationData.remainingDelegations := numDelegations }
  ASSERT (builder.state = .inCVoteRegistrationPayloadInit)
  let builder := APPEND_CBOR (HC_AUX_DATA ||| HC_CVOTE_REGISTRATION_PAYLOAD) .unsigned
    CVOTE_REGISTRATION_PAYLOAD_KEY_VOTE_KEY builder
  let builder := APPEND_CBOR (HC_AUX_DATA ||| HC_CVOTE_REGISTRATION_PAYLOAD) .array
    numDelegations.toNat builder
  pure { builder with state := .inCVoteRegistrationPayloadDelegations }

/-- `auxDataHashBuilder_cVoteRegistration_addDelegation`: one `[key, weight]` pair. -/
def cVoteRegistration_addDelegation (votePubKey : List UInt8) (weight : UInt32)
    (builder : AuxDataHashBuilder) : Option AuxDataHashBuilder := do
  ASSERT (votePubKey.length < BUFFER_SIZE_PARANOIA)
  ASSERT (builder.state = .inCVoteRegistrationPayloadDelegations)
  ASSERT (builder.cVoteRegistrationData.remainingDelegations > 0)
  let builder := { builder with cVoteRegistrationData.remainingDelegations :=
    builder.cVoteRegistrationData.remainingDelegations - 1 }
  let builder := APPEND_CBOR (HC_AUX_DATA ||| HC_CVOTE_REGISTRATION_PAYLOAD) .array 2 builder
  ASSERT (votePubKey.length = PUBLIC_KEY_SIZE)
  let builder := APPEND_CBOR (HC_AUX_DATA ||| HC_CVOTE_REGISTRATION_PAYLOAD) .bytes
    votePubKey.length builder
  let builder ← APPEND_DATA (HC_AUX_DATA ||| HC_CVOTE_REGISTRATION_PAYLOAD) votePubKey builder
  pure (APPEND_CBOR (HC_AUX_DATA ||| HC_CVOTE_REGISTRATION_PAYLOAD) .unsigned weight.toNat builder)

/-- The `switch` of `addStakingKey`: after the vote key, or after the last delegation. -/
def stakingKeyAllowed (builder : AuxDataHashBuilder) : Option Unit :=
  match builder.state with
  | .inCVoteRegistrationPayloadVoteKey => pure ()
  | .inCVoteRegistrationPayloadDelegations =>
    ASSERT (builder.cVoteRegistrationData.remainingDelegations = 0)
  | _ => ASSERT False

/-- `auxDataHashBuilder_cVoteRegistration_addStakingKey`. -/
def cVoteRegistration_addStakingKey (stakingPubKey : List UInt8) (builder : AuxDataHashBuilder) :
    Option AuxDataHashBuilder := do
  ASSERT (stakingPubKey.length < BUFFER_SIZE_PARANOIA)
  stakingKeyAllowed builder
  let builder := APPEND_CBOR (HC_AUX_DATA ||| HC_CVOTE_REGISTRATION_PAYLOAD) .unsigned
    CVOTE_REGISTRATION_PAYLOAD_KEY_STAKING_KEY builder
  ASSERT (stakingPubKey.length = PUBLIC_KEY_SIZE)
  let builder := APPEND_CBOR (HC_AUX_DATA ||| HC_CVOTE_REGISTRATION_PAYLOAD) .bytes
    stakingPubKey.length builder
  let builder ← APPEND_DATA (HC_AUX_DATA ||| HC_CVOTE_REGISTRATION_PAYLOAD) stakingPubKey builder
  pure { builder with state := .inCVoteRegistrationPayloadStakingKey }

/-- `auxDataHashBuilder_cVoteRegistration_addPaymentAddress`. -/
def cVoteRegistration_addPaymentAddress (address : List UInt8) (builder : AuxDataHashBuilder) :
    Option AuxDataHashBuilder := do
  ASSERT (address.length > 0)
  ASSERT (address.length < BUFFER_SIZE_PARANOIA)
  ASSERT (builder.state = .inCVoteRegistrationPayloadStakingKey)
  let builder := APPEND_CBOR (HC_AUX_DATA ||| HC_CVOTE_REGISTRATION_PAYLOAD) .unsigned
    CVOTE_REGISTRATION_PAYLOAD_PAYMENT_ADDRESS builder
  let builder := APPEND_CBOR (HC_AUX_DATA ||| HC_CVOTE_REGISTRATION_PAYLOAD) .bytes
    address.length builder
  let builder ← APPEND_DATA (HC_AUX_DATA ||| HC_CVOTE_REGISTRATION_PAYLOAD) address builder
  pure { builder with state := .inCVoteRegistrationPayloadPaymentAddress }

/-- `auxDataHashBuilder_cVoteRegistration_addNonce`. -/
def cVoteRegistration_addNonce (nonce : UInt64) (builder : AuxDataHashBuilder) :
    Option AuxDataHashBuilder := do
  ASSERT (builder.state = .inCVoteRegistrationPayloadPaymentAddress)
  let builder := APPEND_CBOR (HC_AUX_DATA ||| HC_CVOTE_REGISTRATION_PAYLOAD) .unsigned
    CVOTE_REGISTRATION_PAYLOAD_KEY_NONCE builder
  let builder := APPEND_CBOR (HC_AUX_DATA ||| HC_CVOTE_REGISTRATION_PAYLOAD) .unsigned
    nonce.toNat builder
  pure { builder with state := .inCVoteRegistrationPayloadNonce }

/-- `auxDataHashBuilder_cVoteRegistration_addVotingPurpose`. -/
def cVoteRegistration_addVotingPurpose (votingPurpose : UInt64) (builder : AuxDataHashBuilder) :
    Option AuxDataHashBuilder := do
  ASSERT (builder.state = .inCVoteRegistrationPayloadNonce)
  let builder := APPEND_CBOR (HC_AUX_DATA ||| HC_CVOTE_REGISTRATION_PAYLOAD) .unsigned
    CVOTE_REGISTRATION_PAYLOAD_VOTING_PURPOSE builder
  let builder := APPEND_CBOR (HC_AUX_DATA ||| HC_CVOTE_REGISTRATION_PAYLOAD) .unsigned
    votingPurpose.toNat builder
  pure { builder with state := .inCVoteRegistrationPayloadVotingPurpose }

/-- `auxDataHashBuilder_cVoteRegistration_finalizePayload`: the message digested into the output
buffer. The state is left as it is. -/
def cVoteRegistration_finalizePayload (outSize : UInt32) (builder : AuxDataHashBuilder) :
    Option (List UInt8) := do
  ASSERT (outSize.toNat < BUFFER_SIZE_PARANOIA)
  ASSERT (builder.state = .inCVoteRegistrationPayloadNonce ∨
    builder.state = .inCVoteRegistrationPayloadVotingPurpose)
  ASSERT (outSize.toNat = CVOTE_REGISTRATION_PAYLOAD_HASH_LENGTH)
  pure builder.cVoteRegistrationData.payloadHash

/-- `auxDataHashBuilder_cVoteRegistration_addSignature`: outer context only. -/
def cVoteRegistration_addSignature (signature : List UInt8) (builder : AuxDataHashBuilder) :
    Option AuxDataHashBuilder := do
  ASSERT (signature.length < BUFFER_SIZE_PARANOIA)
  ASSERT (builder.state = .inCVoteRegistrationPayloadNonce ∨
    builder.state = .inCVoteRegistrationPayloadVotingPurpose)
  let builder := APPEND_CBOR HC_AUX_DATA .unsigned METADATA_KEY_CVOTE_REGISTRATION_SIGNATURE builder
  ASSERT (signature.length = ED25519_SIGNATURE_LENGTH)
  let builder := APPEND_CBOR HC_AUX_DATA .map 1 builder
  let builder := APPEND_CBOR HC_AUX_DATA .unsigned CVOTE_REGISTRATION_SIGNATURE_KEY builder
  let builder := APPEND_CBOR HC_AUX_DATA .bytes signature.length builder
  let builder ← APPEND_DATA HC_AUX_DATA signature builder
  pure { builder with state := .inCVoteRegistrationSignature }

/-- `auxDataHashBuilder_cVoteRegistration_addAuxiliaryScripts`: always the empty list. -/
def cVoteRegistration_addAuxiliaryScripts (builder : AuxDataHashBuilder) :
    Option AuxDataHashBuilder := do
  ASSERT (builder.state = .inCVoteRegistrationSignature)
  let builder := APPEND_CBOR HC_AUX_DATA .array 0 builder
  pure { builder with state := .inAuxiliaryScripts }

/-- `auxDataHashBuilder_finalize`: the finished builder and the message digested into the output
buffer. -/
def finalize (outSize : UInt32) (builder : AuxDataHashBuilder) :
    Option (AuxDataHashBuilder × List UInt8) := do
  ASSERT (builder.state = .inAuxiliaryScripts)
  ASSERT (outSize.toNat = AUX_DATA_HASH_LENGTH)
  pure ({ builder with state := .finished }, builder.auxDataHash)

end AuxDataHash.Builder
