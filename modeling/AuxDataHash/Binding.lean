import AuxDataHash.Decoding
import AuxDataHash.Encoding

/-! # What the digests bind

The builder hashes byte streams, and a digest commits to a registration only if no two registrations
give the same stream. They do not: the streams are read back field by field with the prefix-freeness of
the CBOR items (`AuxDataHash.Decoding`). This holds whatever the format passed to `enter`, so also for the
streams of a format-inconsistent registration, which are no CBOR encoding: the payload map header is
read for the format, and the entry after the nonce is the voting purpose (key 5) or the signature
(key 61285).

* `auxDataStream_inj`, `payloadStream_inj`: the outer stream of a valid registration determines it, and
  the inner one every argument but the signature;
* `finalize_digest_binds_registration`: two runs from `init` whose `finalize` calls write the same
  message are call sequences of one registration, differing at most in their `finalizePayload` calls;
* `finalizePayload_digest_binds_payload`: two runs whose last `finalizePayload` calls write the same
  message made the same calls up to there, again up to their `finalizePayload` calls;
* `finalizePayload_message_ne_finalize_message`: no message of the payload digest is a message of the
  auxiliary-data digest, in any two runs. -/

namespace AuxDataHash.Binding

open AuxDataHash.Cbor AuxDataHash.Builder AuxDataHash.Spec AuxDataHash.Run AuxDataHash.TwoContexts
open AuxDataHash.Registrations AuxDataHash.Language AuxDataHash.Encoding AuxDataHash.Decoding

/-! ### The items of a valid registration fit -/

theorem itemsFit_iff {items : List CborItem} : ItemsFit items ↔ ∀ item ∈ items, item.Fits := by
  induction items with
  | nil => simp [ItemsFit]
  | cons item items ih => simp [ItemsFit, ih]

theorem lt_uint64Size_of_lt_uint32Size {n : Nat} (h : n < UInt32.size) : n < UInt64.size :=
  Nat.lt_trans h (by decide)

theorem voteKeyField_item_fits {v : VoteKeyField} (hv : v.Valid) : v.item.Fits := by
  cases v with
  | voteKey k =>
    show k.length < UInt64.size
    rw [show k.length = 32 from hv]
    decide
  | delegations n ds =>
    obtain ⟨hlen, hkeys⟩ := hv
    refine ⟨?_, itemsFit_iff.mpr ?_⟩
    · rw [List.length_map, hlen]
      exact lt_uint64Size_of_lt_uint32Size n.toNat_lt_size
    · simp only [List.mem_map]
      rintro _ ⟨d, hd, rfl⟩
      have hkey : d.1.length = 32 := hkeys d hd
      simp [CborItem.Fits, ItemsFit, hkey, UInt64.size,
        lt_uint64Size_of_lt_uint32Size d.2.toNat_lt_size]

theorem fieldEntries_fit {r : Registration} (hr : r.Valid) : EntriesFit r.fieldEntries := by
  have hkey : r.stakingPubKey.length = 32 := hr.stakingPubKey
  have haddress : r.address.length < 1024 := hr.address_lt
  simp only [Registration.fieldEntries, EntriesFit, CborItem.Fits, voteKeyField_item_fits hr.vote,
    r.nonce.toNat_lt_size, hkey, UInt64.size, CVOTE_REGISTRATION_PAYLOAD_KEY_VOTE_KEY,
    CVOTE_REGISTRATION_PAYLOAD_KEY_STAKING_KEY, CVOTE_REGISTRATION_PAYLOAD_PAYMENT_ADDRESS,
    CVOTE_REGISTRATION_PAYLOAD_KEY_NONCE, true_and, and_true]
  omega

/-! ### Reading a registration's streams back -/

/-- The payload map header: 5 entries for CIP-36, 4 otherwise. -/
theorem format_eq_of_mapSize {f f' : CVoteRegistrationFormat}
    (h : (if f = .CIP36 then 5 else 4) = if f' = .CIP36 then 5 else 4) : f = f' := by
  cases f <;> cases f' <;> simp_all

theorem mapSize_lt (f : CVoteRegistrationFormat) : (if f = .CIP36 then 5 else 4) < UInt64.size := by
  split <;> decide

theorem voteKeyField_item_inj {v v' : VoteKeyField} (hv : v.Valid) (hv' : v'.Valid)
    (h : v.item = v'.item) : v = v' := by
  cases v with
  | voteKey k => cases v' with
    | voteKey k' => simpa [VoteKeyField.item] using h
    | delegations => simp [VoteKeyField.item] at h
  | delegations n ds => cases v' with
    | voteKey => simp [VoteKeyField.item] at h
    | delegations n' ds' =>
      have hds : ds = ds' := by
        refine List.map_injective_iff.mpr (fun d d' hd => ?_) (CborItem.array.inj h)
        simp only [CborItem.array.injEq, List.cons.injEq, CborItem.bytes.injEq,
          CborItem.unsigned.injEq, and_true] at hd
        exact Prod.ext hd.1 (UInt32.toNat.inj hd.2)
      subst hds
      rw [UInt32.toNat.inj (hv.1.symm.trans hv'.1)]

/-- The payload label, the payload map header and the four field entries at the front of a stream
give the format and the four fields. -/
theorem payloadFields_append_inj {r₁ r₂ : Registration} (h₁ : r₁.Valid) (h₂ : r₂.Valid)
    {rest₁ rest₂ : List UInt8}
    (h : payloadHeader r₁.format ++ (encodeEntries r₁.fieldEntries ++ rest₁) =
      payloadHeader r₂.format ++ (encodeEntries r₂.fieldEntries ++ rest₂)) :
    r₁.format = r₂.format ∧ r₁.vote = r₂.vote ∧ r₁.stakingPubKey = r₂.stakingPubKey ∧
      r₁.address = r₂.address ∧ r₁.nonce = r₂.nonce ∧ rest₁ = rest₂ := by
  simp only [payloadHeader, List.append_assoc, List.append_cancel_left_eq] at h
  obtain ⟨-, hsize, h⟩ := cbor_writeToken_append_inj (mapSize_lt r₁.format) (mapSize_lt r₂.format) h
  obtain ⟨hfields, rfl⟩ := encodeEntries_append_inj (fieldEntries_fit h₁) (fieldEntries_fit h₂) rfl h
  simp only [Registration.fieldEntries, List.cons.injEq, Prod.mk.injEq, CborItem.bytes.injEq,
    CborItem.unsigned.injEq, true_and, and_true] at hfields
  obtain ⟨hvote, hkey, haddress, hnonce⟩ := hfields
  exact ⟨format_eq_of_mapSize hsize, voteKeyField_item_inj h₁.vote h₂.vote hvote, hkey, haddress,
    UInt64.toNat.inj hnonce, rfl⟩

/-- After the field entries, the voting purpose is read back: its entry starts with its key, the byte
`0x05`, and what follows the entries in either stream does not. -/
theorem votingPurposeEntries_append_inj {r₁ r₂ : Registration} {rest₁ rest₂ : List UInt8}
    (h₁ : rest₁.head? ≠ some 0x05) (h₂ : rest₂.head? ≠ some 0x05)
    (h : encodeEntries r₁.votingPurposeEntries ++ rest₁ = encodeEntries r₂.votingPurposeEntries ++ rest₂) :
    r₁.votingPurpose = r₂.votingPurpose ∧ rest₁ = rest₂ := by
  have hkey : cbor_writeToken .unsigned CVOTE_REGISTRATION_PAYLOAD_VOTING_PURPOSE = [0x05] := by decide
  unfold Registration.votingPurposeEntries at h
  cases hp₁ : r₁.votingPurpose <;> cases hp₂ : r₂.votingPurpose <;>
    simp only [hp₁, hp₂, encodeEntries_nil, encodeEntries_cons, encode_unsigned, hkey, List.nil_append,
      List.append_nil, List.append_assoc] at h
  case none.none => exact ⟨rfl, h⟩
  case none.some => exact absurd (h ▸ rfl) h₁
  case some.none => exact absurd (h ▸ rfl) h₂
  case some.some p₁ p₂ =>
    obtain ⟨-, hp, h⟩ := cbor_writeToken_append_inj p₁.toNat_lt_size p₂.toNat_lt_size
      (List.cons.inj h).2
    exact ⟨congrArg some (UInt64.toNat.inj hp), h⟩

/-- Two signature entries of 64-byte signatures are equal only for equal signatures. -/
theorem signatureTail_inj {s₁ s₂ : List UInt8} (h₁ : s₁.length = 64) (h₂ : s₂.length = 64)
    (h : signatureTail s₁ ++ cbor_writeToken .array 0 = signatureTail s₂ ++ cbor_writeToken .array 0) :
    s₁ = s₂ := by
  simpa [signatureTail, h₁, h₂] using h

/-- **The outer stream determines the registration**, whatever its format. -/
theorem auxDataStream_inj {r₁ r₂ : Registration} (h₁ : r₁.Valid) (h₂ : r₂.Valid)
    (h : cbor_writeToken .array 2 ++ cbor_writeToken .map 2 ++
        (payloadHeader r₁.format ++ encodeEntries (r₁.fieldEntries ++ r₁.votingPurposeEntries)) ++
        (signatureTail r₁.signature ++ cbor_writeToken .array 0) =
      cbor_writeToken .array 2 ++ cbor_writeToken .map 2 ++
        (payloadHeader r₂.format ++ encodeEntries (r₂.fieldEntries ++ r₂.votingPurposeEntries)) ++
        (signatureTail r₂.signature ++ cbor_writeToken .array 0)) :
    r₁ = r₂ := by
  simp only [encodeEntries_append, List.append_assoc, List.append_cancel_left_eq] at h
  obtain ⟨hf, hv, hk, ha, hn, hrest⟩ := payloadFields_append_inj h₁ h₂ h
  obtain ⟨hp, htail⟩ := votingPurposeEntries_append_inj (by rw [head?_signatureTail]; decide)
    (by rw [head?_signatureTail]; decide) hrest
  cases r₁
  cases r₂
  rw [Registration.mk.injEq]
  exact ⟨hf, hv, hk, ha, hn, hp, signatureTail_inj h₁.signature h₂.signature htail⟩

/-- **The inner stream determines every argument but the signature**, whatever the format. -/
theorem payloadStream_inj {r₁ r₂ : Registration} (h₁ : r₁.Valid) (h₂ : r₂.Valid)
    (h : cbor_writeToken .map 1 ++
        (payloadHeader r₁.format ++ encodeEntries (r₁.fieldEntries ++ r₁.votingPurposeEntries)) =
      cbor_writeToken .map 1 ++
        (payloadHeader r₂.format ++ encodeEntries (r₂.fieldEntries ++ r₂.votingPurposeEntries))) :
    r₁ = { r₂ with signature := r₁.signature } := by
  simp only [encodeEntries_append, List.append_cancel_left_eq] at h
  obtain ⟨hf, hv, hk, ha, hn, hrest⟩ := payloadFields_append_inj h₁ h₂ h
  obtain ⟨hp, -⟩ := @votingPurposeEntries_append_inj r₁ r₂ [] [] nofun nofun (by simpa using hrest)
  cases r₁
  cases r₂
  rw [Registration.mk.injEq]
  exact ⟨hf, hv, hk, ha, hn, hp, rfl⟩

/-! ### Runs -/

/-- The message `finalize` writes is what the outer context absorbed. -/
theorem run_finalize_output {b : AuxDataHashBuilder} {σ : List Call} {outSize : UInt32}
    {res : AuxDataHashBuilder × List Output} (h : run b (σ ++ [.finalize outSize]) = some res) :
    res.2.getLast? = some (some res.1.auxDataHash) := by
  obtain ⟨r₁, r₂, -, h₂, rfl⟩ := run_append_eq_some h
  rw [run_singleton, step, finalize_eq] at h₂
  split_ifs at h₂ <;> simp at h₂
  cases h₂
  simp

/-- The message `finalizePayload` writes is what the inner context absorbed; the call is accepted after
the nonce or the voting purpose, and changes nothing. -/
theorem run_finalizePayload_output {b : AuxDataHashBuilder} {σ : List Call} {outSize : UInt32}
    {res : AuxDataHashBuilder × List Output} (h : run b (σ ++ [.finalizePayload outSize]) = some res) :
    ∃ outs, run b σ = some (res.1, outs) ∧
      (res.1.state = .inCVoteRegistrationPayloadNonce ∨
        res.1.state = .inCVoteRegistrationPayloadVotingPurpose) ∧
      res.2.getLast? = some (some res.1.cVoteRegistrationData.payloadHash) := by
  obtain ⟨r₁, r₂, h₁, h₂, rfl⟩ := run_append_eq_some h
  rw [run_singleton, step, cVoteRegistration_finalizePayload_eq] at h₂
  split_ifs at h₂ with hg <;> simp at h₂
  cases h₂
  exact ⟨r₁.2, h₁, hg.1, by simp⟩

/-- A run from `init` to the finished state is the call sequence of a valid registration, whose streams
the two contexts hold. -/
theorem run_finished_registration {b : AuxDataHashBuilder} {σ : List Call}
    {res : AuxDataHashBuilder × List Output} (h : run (init b) σ = some res)
    (hs : res.1.state = .finished) :
    ∃ (reg : Registration) (before after : Nat), reg.Valid ∧ σ = reg.calls before after ∧
      Framed res.1 (payloadHeader reg.format ++ encodeEntries (reg.fieldEntries ++ reg.votingPurposeEntries))
        (signatureTail reg.signature ++ cbor_writeToken .array 0) := by
  have hshape := shape_run (shape_init b) h
  simp only [List.nil_append, Shape, hs] at hshape
  obtain ⟨reg, before, after, hr, rfl⟩ := hshape
  obtain ⟨bf, outs, hrun, -, hframed⟩ := run_calls b hr before after
  obtain rfl : res = (bf, outs) := Option.some.inj (h.symm.trans hrun)
  exact ⟨reg, before, after, hr, rfl, hframed⟩

/-- A run from `init` after which `finalizePayload` is accepted made the payload calls of a valid
registration, whose payload stream the inner context holds. -/
theorem run_payload_registration {b : AuxDataHashBuilder} {σ : List Call}
    {res : AuxDataHashBuilder × List Output} (h : run (init b) σ = some res)
    (hs : res.1.state = .inCVoteRegistrationPayloadNonce ∨
      res.1.state = .inCVoteRegistrationPayloadVotingPurpose) :
    ∃ (reg : Registration) (before after : Nat), reg.Valid ∧
      σ = reg.payloadCalls ++ finalizePayloads before ++ reg.votingPurposeCalls after ∧
      res.1.cVoteRegistrationData.payloadHash = cbor_writeToken .map 1 ++
        (payloadHeader reg.format ++ encodeEntries (reg.fieldEntries ++ reg.votingPurposeEntries)) := by
  have hshape := shape_run (shape_init b) h
  obtain ⟨reg, before, after, hr, rfl⟩ : ∃ (reg : Registration) (before after : Nat), reg.Valid ∧
      σ = reg.payloadCalls ++ finalizePayloads before ++ reg.votingPurposeCalls after := by
    rcases hs with hs | hs <;> simp only [List.nil_append, Shape, hs] at hshape
    · obtain ⟨reg, before, hr, hvp, rfl⟩ := hshape
      exact ⟨reg, before, 0, hr, by simp [Registration.votingPurposeCalls, hvp]⟩
    · obtain ⟨reg, before, after, hr, -, rfl⟩ := hshape
      exact ⟨reg, before, after, hr, rfl⟩
  obtain ⟨b₃, o₃, h₃, hs₃, hb₃⟩ := run_payloadCalls b hr
  obtain ⟨b₅, o₅, h₅, -, hb₅⟩ := run_votingPurposeCalls reg after hs₃ hb₃
  have hrun := run_append_of_eq_some
    (run_append_of_eq_some h₃ (run_finalizePayloads (b := b₃) before (.inl hs₃))) h₅
  obtain rfl : res = _ := Option.some.inj (h.symm.trans hrun)
  refine ⟨reg, before, after, hr, rfl, ?_⟩
  rw [hb₅.1, encodeEntries_append, List.append_assoc]

/-- **The digest of the auxiliary data binds the registration.** Two runs from `init` whose `finalize`
calls write the same message are call sequences of one valid registration: they differ at most in the
number of `finalizePayload` calls before and after the voting purpose, which absorb nothing. -/
theorem finalize_digest_binds_registration {b₁ b₂ : AuxDataHashBuilder} {σ₁ σ₂ : List Call}
    {outSize₁ outSize₂ : UInt32} {res₁ res₂ : AuxDataHashBuilder × List Output}
    (h₁ : run (init b₁) (σ₁ ++ [.finalize outSize₁]) = some res₁)
    (h₂ : run (init b₂) (σ₂ ++ [.finalize outSize₂]) = some res₂)
    (heq : res₁.2.getLast? = res₂.2.getLast?) :
    ∃ (reg : Registration) (before₁ after₁ before₂ after₂ : Nat), reg.Valid ∧
      σ₁ ++ [.finalize outSize₁] = reg.calls before₁ after₁ ∧
      σ₂ ++ [.finalize outSize₂] = reg.calls before₂ after₂ := by
  obtain ⟨r₁, be₁, af₁, hr₁, hσ₁, hF₁⟩ := run_finished_registration h₁ (state_of_run_finalize h₁)
  obtain ⟨r₂, be₂, af₂, hr₂, hσ₂, hF₂⟩ := run_finished_registration h₂ (state_of_run_finalize h₂)
  rw [run_finalize_output h₁, run_finalize_output h₂, Option.some.injEq, Option.some.injEq, hF₁.2,
    hF₂.2] at heq
  obtain rfl := auxDataStream_inj hr₁ hr₂ heq
  exact ⟨r₁, be₁, af₁, be₂, af₂, hr₁, hσ₁, hσ₂⟩

/-- The registration of `cip36WithVotingPurpose`, with one more `finalizePayload` call before the
voting purpose. -/
def cip36WithEarlyPayloadDigest : List Call :=
  [.enter .CIP36, .enterPayload, .addVoteKey fillerKey, .addStakingKey fillerKey,
    .addPaymentAddress [0], .addNonce 0, .finalizePayload 32, .addVotingPurpose 0, .finalizePayload 32,
    .addSignature (List.replicate ED25519_SIGNATURE_LENGTH 0), .addAuxiliaryScripts]

set_option maxRecDepth 4000 in
theorem finalize_digest_binds_registration_cip36 :
    ∃ res₁ res₂, run (init someBuilder) (cip36WithVotingPurpose ++ [.finalize 32]) = some res₁ ∧
      run (init someBuilder) (cip36WithEarlyPayloadDigest ++ [.finalize 32]) = some res₂ ∧
      res₁.2.getLast? = res₂.2.getLast? ∧
      ∃ (reg : Registration) (before₁ after₁ before₂ after₂ : Nat), reg.Valid ∧
        cip36WithVotingPurpose ++ [.finalize 32] = reg.calls before₁ after₁ ∧
        cip36WithEarlyPayloadDigest ++ [.finalize 32] = reg.calls before₂ after₂ := by
  obtain ⟨res₁, h₁⟩ := Option.isSome_iff_exists.mp
    (by decide : (run (init someBuilder) (cip36WithVotingPurpose ++ [.finalize 32])).isSome)
  obtain ⟨res₂, h₂⟩ := Option.isSome_iff_exists.mp
    (by decide : (run (init someBuilder) (cip36WithEarlyPayloadDigest ++ [.finalize 32])).isSome)
  have heq : res₁.2.getLast? = res₂.2.getLast? := by
    have hdigest := (by decide :
      (run (init someBuilder) (cip36WithVotingPurpose ++ [.finalize 32])).map (·.2.getLast?) =
        (run (init someBuilder) (cip36WithEarlyPayloadDigest ++ [.finalize 32])).map (·.2.getLast?))
    rwa [h₁, h₂, Option.map_some', Option.map_some', Option.some.injEq] at hdigest
  exact ⟨res₁, res₂, h₁, h₂, heq, finalize_digest_binds_registration h₁ h₂ heq⟩

/-- **The payload digest binds the payload.** Two runs from `init` whose last `finalizePayload` calls
write the same message made the same calls up to there, whatever the format: the same vote key or
delegations, staking key, payment address, nonce and voting purpose, differing at most in the number of
earlier `finalizePayload` calls. -/
theorem finalizePayload_digest_binds_payload {b₁ b₂ : AuxDataHashBuilder} {σ₁ σ₂ : List Call}
    {outSize₁ outSize₂ : UInt32} {res₁ res₂ : AuxDataHashBuilder × List Output}
    (h₁ : run (init b₁) (σ₁ ++ [.finalizePayload outSize₁]) = some res₁)
    (h₂ : run (init b₂) (σ₂ ++ [.finalizePayload outSize₂]) = some res₂)
    (heq : res₁.2.getLast? = res₂.2.getLast?) :
    ∃ (reg : Registration) (before₁ after₁ before₂ after₂ : Nat), reg.Valid ∧
      σ₁ = reg.payloadCalls ++ finalizePayloads before₁ ++ reg.votingPurposeCalls after₁ ∧
      σ₂ = reg.payloadCalls ++ finalizePayloads before₂ ++ reg.votingPurposeCalls after₂ := by
  obtain ⟨o₁, hσ₁, hs₁, hout₁⟩ := run_finalizePayload_output h₁
  obtain ⟨o₂, hσ₂, hs₂, hout₂⟩ := run_finalizePayload_output h₂
  obtain ⟨r₁, be₁, af₁, hr₁, rfl, hP₁⟩ := run_payload_registration hσ₁ hs₁
  obtain ⟨r₂, be₂, af₂, hr₂, rfl, hP₂⟩ := run_payload_registration hσ₂ hs₂
  rw [hout₁, hout₂, Option.some.injEq, Option.some.injEq, hP₁, hP₂] at heq
  have hr := payloadStream_inj hr₂ hr₁ heq.symm
  exact ⟨r₁, be₁, af₁, be₂, af₂, hr₁, rfl, by rw [hr]; rfl⟩

/-- The calls of `cip36WithVotingPurpose` before its `finalizePayload` call. -/
def cip36Payload : List Call :=
  [.enter .CIP36, .enterPayload, .addVoteKey fillerKey, .addStakingKey fillerKey,
    .addPaymentAddress [0], .addNonce 0, .addVotingPurpose 0]

set_option maxRecDepth 4000 in
theorem finalizePayload_digest_binds_payload_cip36 :
    ∃ res₁ res₂, run (init someBuilder) (cip36Payload ++ [.finalizePayload 32]) = some res₁ ∧
      run (init someBuilder) (cip36Payload ++ [.finalizePayload 32] ++ [.finalizePayload 32]) =
        some res₂ ∧
      res₁.2.getLast? = res₂.2.getLast? ∧
      ∃ (reg : Registration) (before₁ after₁ before₂ after₂ : Nat), reg.Valid ∧
        cip36Payload = reg.payloadCalls ++ finalizePayloads before₁ ++ reg.votingPurposeCalls after₁ ∧
        cip36Payload ++ [.finalizePayload 32] =
          reg.payloadCalls ++ finalizePayloads before₂ ++ reg.votingPurposeCalls after₂ := by
  obtain ⟨res₁, h₁⟩ := Option.isSome_iff_exists.mp
    (by decide : (run (init someBuilder) (cip36Payload ++ [.finalizePayload 32])).isSome)
  obtain ⟨res₂, h₂⟩ := Option.isSome_iff_exists.mp (by decide :
    (run (init someBuilder) (cip36Payload ++ [.finalizePayload 32] ++ [.finalizePayload 32])).isSome)
  have heq : res₁.2.getLast? = res₂.2.getLast? := by
    have hdigest := (by decide :
      (run (init someBuilder) (cip36Payload ++ [.finalizePayload 32])).map (·.2.getLast?) =
        (run (init someBuilder) (cip36Payload ++ [.finalizePayload 32] ++
          [.finalizePayload 32])).map (·.2.getLast?))
    rwa [h₁, h₂, Option.map_some', Option.map_some', Option.some.injEq] at hdigest
  exact ⟨res₁, res₂, h₁, h₂, heq, finalizePayload_digest_binds_payload h₁ h₂ heq⟩

/-- **The two digests are taken over disjoint sets of messages.** A message that `finalizePayload` writes
opens with `map(1)` and one that `finalize` writes with `array(2)`, in any two runs from `init`: a digest
of one kind is never a digest of the other. -/
theorem finalizePayload_message_ne_finalize_message {b₁ b₂ : AuxDataHashBuilder} {σ₁ σ₂ : List Call}
    {outSize₁ outSize₂ : UInt32} {res₁ res₂ : AuxDataHashBuilder × List Output}
    (h₁ : run (init b₁) (σ₁ ++ [.finalizePayload outSize₁]) = some res₁)
    (h₂ : run (init b₂) (σ₂ ++ [.finalize outSize₂]) = some res₂) :
    res₁.2.getLast? ≠ res₂.2.getLast? := by
  obtain ⟨o₁, hσ₁, hs₁, hout₁⟩ := run_finalizePayload_output h₁
  obtain ⟨_, _, _, _, _, hP⟩ := run_payload_registration hσ₁ hs₁
  obtain ⟨_, _, _, _, _, hF⟩ := run_finished_registration h₂ (state_of_run_finalize h₂)
  rw [hout₁, run_finalize_output h₂, hP, hF.2, Ne, Option.some.injEq, Option.some.injEq,
    show cbor_writeToken .map 1 = [0xA1] by decide, show cbor_writeToken .array 2 = [0x82] by decide]
  exact fun h => absurd (List.cons.inj h).1 (by decide)

theorem finalizePayload_message_ne_finalize_message_cip36 :
    ∃ res₁ res₂, run (init someBuilder) (cip36Payload ++ [.finalizePayload 32]) = some res₁ ∧
      run (init someBuilder) (cip36WithVotingPurpose ++ [.finalize 32]) = some res₂ ∧
      res₁.2.getLast? ≠ res₂.2.getLast? := by
  obtain ⟨res₁, h₁⟩ := Option.isSome_iff_exists.mp
    (by decide : (run (init someBuilder) (cip36Payload ++ [.finalizePayload 32])).isSome)
  obtain ⟨res₂, h₂⟩ := Option.isSome_iff_exists.mp
    (by decide : (run (init someBuilder) (cip36WithVotingPurpose ++ [.finalize 32])).isSome)
  exact ⟨res₁, res₂, h₁, h₂, finalizePayload_message_ne_finalize_message h₁ h₂⟩

end AuxDataHash.Binding
