import AuxDataHash.Language

/-! # The streams and the encoded registration

A complete accepted run is `r.calls before after` for a valid registration `r` (`AuxDataHash.Language`),
and `run_calls` gives what it feeds the two contexts. Those streams differ from the canonical encodings
`r.auxDataItem.encode` and `r.signedPayloadItem.encode` in one token only: the payload map header, which
`enterPayload` writes from the format (5 entries for CIP-36, 4 otherwise) while the encoding counts the
entries that follow (5 with a voting purpose, 4 without).

* `auxDataStream_eq_encode_iff`, `payloadStream_eq_encode_iff`: the streams are the encodings iff the
  voting purpose is there exactly for CIP-36 (`Registration.FormatConsistent`);
* `auxData_encodes_registration`: every run from `init` that ends with an accepted `finalize` is the call
  sequence of a valid registration, and both contexts hold its encoding iff the registration is
  format-consistent;
* `stream_not_encoding_cip36_without_votingPurpose`: a CIP-36 registration without a voting purpose is
  accepted, and its outer stream is not the encoding of the registration;
* `grammarWord_outputs`: a caller that follows the grammar of the spec, with a payment address below
  `BUFFER_SIZE_PARANOIA`, is accepted, and the two finalizing calls write the encodings of the signed
  payload and of the auxiliary data, the other calls nothing. -/

namespace AuxDataHash.Encoding

open AuxDataHash.Cbor AuxDataHash.Builder AuxDataHash.Spec AuxDataHash.Run AuxDataHash.TwoContexts
open AuxDataHash.Delegations AuxDataHash.Registrations AuxDataHash.Language

/-! ### The payload map header -/

/-- The header `enterPayload` writes is the one the encoding writes iff the registration is
format-consistent. -/
theorem payloadHeader_eq_iff (r : Registration) :
    payloadHeader r.format =
        (CborItem.unsigned METADATA_KEY_CVOTE_REGISTRATION_PAYLOAD).encode ++
          cbor_writeToken .map (r.fieldEntries ++ r.votingPurposeEntries).length ↔
      r.FormatConsistent := by
  rcases r with ⟨f, _, _, _, _, _ | _, _⟩ <;> cases f <;>
    simp [payloadHeader, Registration.FormatConsistent, Registration.fieldEntries,
      Registration.votingPurposeEntries] <;> decide

theorem auxDataStream_eq_encode_iff (r : Registration) :
    cbor_writeToken .array 2 ++ cbor_writeToken .map 2 ++
        (payloadHeader r.format ++ encodeEntries (r.fieldEntries ++ r.votingPurposeEntries)) ++
        (signatureTail r.signature ++ cbor_writeToken .array 0) = r.auxDataItem.encode ↔
      r.FormatConsistent := by
  rw [← payloadHeader_eq_iff]
  simp [Registration.auxDataItem, Registration.payloadItem, signatureTail, payloadHeader]

theorem payloadStream_eq_encode_iff (r : Registration) :
    cbor_writeToken .map 1 ++
        (payloadHeader r.format ++ encodeEntries (r.fieldEntries ++ r.votingPurposeEntries)) =
        r.signedPayloadItem.encode ↔
      r.FormatConsistent := by
  rw [← payloadHeader_eq_iff]
  simp [Registration.signedPayloadItem, Registration.payloadItem, payloadHeader]

/-! ### Complete runs -/

/-- The streams of the complete run of a valid registration are its encodings iff it is
format-consistent. -/
theorem run_calls_eq_encode_iff {b : AuxDataHashBuilder} {r : Registration} (hr : r.Valid)
    {before after : Nat} {res : AuxDataHashBuilder × List Output}
    (h : run (init b) (r.calls before after) = some res) :
    (res.1.auxDataHash = r.auxDataItem.encode ↔ r.FormatConsistent) ∧
      (res.1.cVoteRegistrationData.payloadHash = r.signedPayloadItem.encode ↔
        r.FormatConsistent) := by
  obtain ⟨bf, outs, hrun, -, hP, hA⟩ := run_calls b hr before after
  obtain rfl : res = (bf, outs) := Option.some.inj (h.symm.trans hrun)
  exact ⟨hA ▸ auxDataStream_eq_encode_iff r, hP ▸ payloadStream_eq_encode_iff r⟩

/-- **What the outer context digests.** A run from `init` that ends with an accepted `finalize` is the
complete call sequence of a valid registration `reg`, with the arguments of the calls; the outer
context holds the encoding of `reg.auxDataItem`, and the inner one that of `reg.signedPayloadItem`,
iff the voting purpose is there exactly for CIP-36. -/
theorem auxData_encodes_registration (b : AuxDataHashBuilder) (σ : List Call) (outSize : UInt32)
    (res : AuxDataHashBuilder × List Output)
    (h : run (init b) (σ ++ [.finalize outSize]) = some res) :
    ∃ (reg : Registration) (before after : Nat), reg.Valid ∧
      σ ++ [.finalize outSize] = reg.calls before after ∧
      (res.1.auxDataHash = reg.auxDataItem.encode ↔ reg.FormatConsistent) ∧
      (res.1.cVoteRegistrationData.payloadHash = reg.signedPayloadItem.encode ↔
        reg.FormatConsistent) := by
  have hshape := shape_run (shape_init b) h
  simp only [List.nil_append, Shape, state_of_run_finalize h] at hshape
  obtain ⟨reg, before, after, hr, hσ⟩ := hshape
  exact ⟨reg, before, after, hr, hσ, run_calls_eq_encode_iff hr (hσ ▸ h)⟩

/-- A CIP-36 registration with a voting purpose, up to the script list. -/
def cip36WithVotingPurpose : List Call :=
  [.enter .CIP36, .enterPayload, .addVoteKey fillerKey, .addStakingKey fillerKey,
    .addPaymentAddress [0], .addNonce 0, .addVotingPurpose 0, .finalizePayload 32,
    .addSignature (List.replicate ED25519_SIGNATURE_LENGTH 0), .addAuxiliaryScripts]

theorem auxData_encodes_registration_cip36 :
    ∃ res, run (init someBuilder) (cip36WithVotingPurpose ++ [.finalize 32]) = some res ∧
      ∃ (reg : Registration) (before after : Nat), reg.Valid ∧
        cip36WithVotingPurpose ++ [.finalize 32] = reg.calls before after ∧
        (res.1.auxDataHash = reg.auxDataItem.encode ↔ reg.FormatConsistent) ∧
        (res.1.cVoteRegistrationData.payloadHash = reg.signedPayloadItem.encode ↔
          reg.FormatConsistent) := by
  obtain ⟨res, h⟩ := Option.isSome_iff_exists.mp
    (by decide : (run (init someBuilder) (cip36WithVotingPurpose ++ [.finalize 32])).isSome)
  exact ⟨res, h, auxData_encodes_registration _ _ _ res h⟩

/-! ### A format-inconsistent registration -/

theorem head?_calls (r : Registration) (before after : Nat) :
    (r.calls before after).head? = some (.enter r.format) := by
  simp [Registration.calls, Registration.payloadCalls, Registration.headCalls]

theorem addVotingPurpose_mem_calls {r : Registration} {votingPurpose : UInt64}
    (h : r.votingPurpose = some votingPurpose) (before after : Nat) :
    .addVotingPurpose votingPurpose ∈ r.calls before after := by
  simp [Registration.calls, Registration.votingPurposeCalls, h]

/-- A CIP-36 registration without a voting purpose, up to the script list. -/
def cip36WithoutVotingPurpose : List Call :=
  [.enter .CIP36, .enterPayload, .addVoteKey fillerKey, .addStakingKey fillerKey,
    .addPaymentAddress [0], .addNonce 0, .finalizePayload 32,
    .addSignature (List.replicate ED25519_SIGNATURE_LENGTH 0), .addAuxiliaryScripts]

/-- **A CIP-36 registration without a voting purpose** is accepted, and the outer stream is not the
encoding of the registration its calls give: `enterPayload` announced 5 payload entries and 4 follow. -/
theorem stream_not_encoding_cip36_without_votingPurpose :
    ¬ ∀ (b : AuxDataHashBuilder) (σ : List Call) (outSize : UInt32)
        (res : AuxDataHashBuilder × List Output),
      run (init b) (σ ++ [.finalize outSize]) = some res →
      ∃ (reg : Registration) (before after : Nat), reg.Valid ∧
        σ ++ [.finalize outSize] = reg.calls before after ∧
        res.1.auxDataHash = reg.auxDataItem.encode := by
  intro h
  obtain ⟨res, hres⟩ := Option.isSome_iff_exists.mp
    (by decide : (run (init someBuilder) (cip36WithoutVotingPurpose ++ [.finalize 32])).isSome)
  obtain ⟨reg, before, after, hr, hσ, henc⟩ := h _ _ _ _ hres
  have hconsistent := (run_calls_eq_encode_iff hr (hσ ▸ hres)).1.mp henc
  have hformat : .CIP36 = reg.format := by
    simpa [cip36WithoutVotingPurpose] using (congrArg List.head? hσ).trans (head?_calls reg _ _)
  cases hvp : reg.votingPurpose with
  | none => simp [Registration.FormatConsistent, hvp, ← hformat] at hconsistent
  | some v =>
    have hmem := hσ ▸ addVotingPurpose_mem_calls hvp before after
    simp [cip36WithoutVotingPurpose] at hmem

/-! ### A caller that follows the grammar -/

theorem grammarWord_eq (r : Registration) :
    grammarWord r =
      r.payloadCalls ++ r.votingPurposeCalls 0 ++ [.finalizePayload 32] ++ r.closingCalls := by
  cases h : r.votingPurpose <;>
    simp [grammarWord, Registration.payloadCalls, Registration.headCalls,
      Registration.votingPurposeCalls, Registration.closingCalls, finalizePayloads, h]

/-- The calls of the vote-key field write nothing. -/
theorem voteCalls_write_nothing (v : VoteKeyField) : ∀ c ∈ v.calls, c.writesOutput = false := by
  cases v with
  | voteKey k => exact List.forall_mem_singleton.mpr rfl
  | delegations n ds =>
    simp only [VoteKeyField.calls, List.forall_mem_cons, delegationCalls, List.forall_mem_map]
    exact ⟨rfl, fun _ _ => rfl⟩

theorem payloadCalls_write_nothing (r : Registration) :
    ∀ c ∈ r.payloadCalls ++ r.votingPurposeCalls 0, c.writesOutput = false := by
  simp only [Registration.payloadCalls, Registration.headCalls, List.forall_mem_append,
    List.forall_mem_cons, List.not_mem_nil, false_implies, implies_true, and_true]
  refine ⟨⟨⟨⟨rfl, rfl⟩, voteCalls_write_nothing r.vote⟩, rfl, rfl, rfl⟩, ?_⟩
  unfold Registration.votingPurposeCalls
  split
  · exact fun _ h => absurd h (List.not_mem_nil _)
  · exact List.forall_mem_cons.mpr ⟨rfl, fun _ h => absurd h (List.not_mem_nil _)⟩

/-- **A caller that follows the grammar of the spec**, with a payment address below
`BUFFER_SIZE_PARANOIA`: every call is accepted, `finalizePayload` writes the message
`{61284: payload}`, `finalize` the auxiliary data `[{61284: payload, 61285: {1: signature}}, []]`, both
canonically encoded, and the other calls write nothing. -/
theorem grammarWord_outputs (b : AuxDataHashBuilder) (r : Registration) (hr : GrammarArgs r)
    (hc : r.FormatConsistent) (ha : r.address.length < BUFFER_SIZE_PARANOIA) :
    (run (init b) (grammarWord r)).map Prod.snd =
      some (List.replicate ((grammarWord r).length - 4) none ++
        [some r.signedPayloadItem.encode, none, none, some r.auxDataItem.encode]) := by
  have hv : r.Valid := ⟨hr.vote, hr.stakingPubKey, hr.address_pos, ha, hr.signature⟩
  obtain ⟨b₃, o₃, h₃, hs₃, hb₃⟩ := run_payloadCalls b hv
  obtain ⟨b₅, o₅, h₅, hs₅, hb₅⟩ := run_votingPurposeCalls r 0 hs₃ hb₃
  obtain ⟨b₆, h₆, -, hb₆⟩ := run_closingCalls r hs₅ hb₅ hv.signature
  have h₃₅ := run_append_of_eq_some h₃ h₅
  have h : run (init b) (r.payloadCalls ++ r.votingPurposeCalls 0 ++ [.finalizePayload 32] ++
      r.closingCalls) = _ :=
    run_append_of_eq_some (run_append_of_eq_some h₃₅ (run_finalizePayloads 1 hs₅)) h₆
  have hP : b₅.cVoteRegistrationData.payloadHash = r.signedPayloadItem.encode := by
    rw [hb₅.1, ← (payloadStream_eq_encode_iff r).mpr hc, encodeEntries_append, List.append_assoc]
  have hA : b₆.auxDataHash = r.auxDataItem.encode := by
    rw [hb₆.2, ← (auxDataStream_eq_encode_iff r).mpr hc, encodeEntries_append]
    simp
  rw [grammarWord_eq, h, run_outputs_none (payloadCalls_write_nothing r) h₃₅]
  simp [hP, hA, Registration.closingCalls]
  omega

/-- A CIP-36 registration with a voting purpose. -/
def cip36Registration : Registration :=
  ⟨.CIP36, .voteKey fillerKey, fillerKey, [0], 0, some 0, List.replicate ED25519_SIGNATURE_LENGTH 0⟩

theorem grammarWord_outputs_cip36 :
    GrammarArgs cip36Registration ∧ cip36Registration.FormatConsistent ∧
      cip36Registration.address.length < BUFFER_SIZE_PARANOIA ∧
      (run (init someBuilder) (grammarWord cip36Registration)).map Prod.snd =
        some (List.replicate ((grammarWord cip36Registration).length - 4) none ++
          [some cip36Registration.signedPayloadItem.encode, none, none,
            some cip36Registration.auxDataItem.encode]) :=
  have hr : GrammarArgs cip36Registration :=
    ⟨List.length_replicate .., List.length_replicate .., by decide, List.length_replicate ..⟩
  ⟨hr, by decide, by decide, grammarWord_outputs someBuilder cip36Registration hr (by decide) (by decide)⟩

end AuxDataHash.Encoding
