import AuxDataHash.Registrations

/-! # The accepted language

The state machine accepts a call sequence after `init` iff the sequence is a prefix of
`r.calls before after` for a valid registration `r`: `enter`, `enterPayload`, one vote key or `n`
delegations after `enterDelegations n`, the staking key, a payment address of `1` to
`BUFFER_SIZE_PARANOIA - 1` bytes, the nonce, any number of `finalizePayload` calls, optionally a voting
purpose followed by any number of `finalizePayload` calls, the signature, the script list, `finalize`.
The voting purpose is accepted or left out whatever the format passed to `enter`.

`Shape b σ` says what the history `σ` of a builder in state `b.state` is; in the delegation state it also
ties the countdown to the delegations added so far.

* `shape_step`, `shape_run`: every call, and so every run from `init`, keeps `Shape`;
* `shape_completes`: the history of every reachable builder is a prefix of a complete call sequence;
* `accepted_iff_prefix_calls`: the accepted call sequences are the prefixes of the complete ones;
* `finalize_ends_operation`: once `finalize` is accepted, every further call aborts;
* `grammar_differs_from_accepted`: the grammar `G_f` of the spec is not that language, in either
  direction: a CIP-15 registration with a voting purpose is accepted and is no prefix of a word of
  `G_f`, and a payment address of `BUFFER_SIZE_PARANOIA` bytes is in `G_f` and aborts. -/

namespace AuxDataHash.Language

open AuxDataHash.Cbor AuxDataHash.Builder AuxDataHash.Spec AuxDataHash.Run AuxDataHash.TwoContexts
open AuxDataHash.Delegations AuxDataHash.Registrations

/-! ### The history of each state -/

/-- **The history invariant**: the calls that lead from `init` to a builder in each state. -/
def Shape (b : AuxDataHashBuilder) (σ : List Call) : Prop :=
  match b.state with
  | .init => σ = []
  | .inCVoteRegistrationInit => ∃ f, σ = [.enter f]
  | .inCVoteRegistrationPayloadInit => ∃ f, σ = [.enter f, .enterPayload]
  | .inCVoteRegistrationPayloadVoteKey =>
    ∃ f k, k.length = PUBLIC_KEY_SIZE ∧ σ = [.enter f, .enterPayload, .addVoteKey k]
  | .inCVoteRegistrationPayloadDelegations =>
    ∃ f n ds, (∀ d ∈ ds, d.1.length = PUBLIC_KEY_SIZE) ∧
      ds.length + b.cVoteRegistrationData.remainingDelegations.toNat = n.toNat ∧
      σ = [.enter f, .enterPayload, .enterDelegations n] ++ delegationCalls ds
  | .inCVoteRegistrationPayloadStakingKey =>
    ∃ (f : CVoteRegistrationFormat) (v : VoteKeyField) (s : List UInt8), v.Valid ∧
      s.length = PUBLIC_KEY_SIZE ∧ σ = [.enter f, .enterPayload] ++ v.calls ++ [.addStakingKey s]
  | .inCVoteRegistrationPayloadPaymentAddress =>
    ∃ (f : CVoteRegistrationFormat) (v : VoteKeyField) (s a : List UInt8), v.Valid ∧
      s.length = PUBLIC_KEY_SIZE ∧ 0 < a.length ∧ a.length < BUFFER_SIZE_PARANOIA ∧
      σ = [.enter f, .enterPayload] ++ v.calls ++ [.addStakingKey s, .addPaymentAddress a]
  | .inCVoteRegistrationPayloadNonce =>
    ∃ (r : Registration) (before : Nat), r.Valid ∧ r.votingPurpose = none ∧
      σ = r.payloadCalls ++ finalizePayloads before
  | .inCVoteRegistrationPayloadVotingPurpose =>
    ∃ (r : Registration) (before after : Nat), r.Valid ∧ r.votingPurpose.isSome ∧
      σ = r.payloadCalls ++ finalizePayloads before ++ r.votingPurposeCalls after
  | .inCVoteRegistrationSignature =>
    ∃ (r : Registration) (before after : Nat), r.Valid ∧
      σ = r.payloadCalls ++ finalizePayloads before ++ r.votingPurposeCalls after ++
        [.addSignature r.signature]
  | .inAuxiliaryScripts =>
    ∃ (r : Registration) (before after : Nat), r.Valid ∧
      σ = r.payloadCalls ++ finalizePayloads before ++ r.votingPurposeCalls after ++
        [.addSignature r.signature, .addAuxiliaryScripts]
  | .finished => ∃ (r : Registration) (before after : Nat), r.Valid ∧ σ = r.calls before after

theorem shape_init (b : AuxDataHashBuilder) : Shape (init b) [] := by
  simp [Shape, init_eq]

theorem finalizePayloads_succ (count : Nat) :
    finalizePayloads (count + 1) = finalizePayloads count ++ [.finalizePayload 32] :=
  List.replicate_succ' ..

theorem votingPurposeCalls_succ {r : Registration} (h : r.votingPurpose.isSome) (after : Nat) :
    r.votingPurposeCalls (after + 1) = r.votingPurposeCalls after ++ [.finalizePayload 32] := by
  obtain ⟨v, hv⟩ := Option.isSome_iff_exists.mp h
  simp [Registration.votingPurposeCalls, hv, finalizePayloads_succ]

/-- An output size that passes the digest-length check is `32`. -/
theorem eq_of_toNat_eq {outSize : UInt32} (h : outSize.toNat = 32) : outSize = 32 :=
  UInt32.toNat.inj h

/-- **Every call keeps the history invariant.** One case per entry point: its `ASSERT`s name the
states it is accepted in, and the history grows by the call. -/
theorem shape_step {b : AuxDataHashBuilder} {σ : List Call} {c : Call}
    {r : AuxDataHashBuilder × Output} (hb : Shape b σ) (h : step b c = some r) :
    Shape r.1 (σ ++ [c]) := by
  cases c <;> simp only [step, cVoteRegistration_enter_eq, cVoteRegistration_enterPayload_eq,
    cVoteRegistration_addVoteKey_eq, cVoteRegistration_enterDelegations_eq,
    cVoteRegistration_addDelegation_eq, cVoteRegistration_addStakingKey_eq,
    cVoteRegistration_addPaymentAddress_eq, cVoteRegistration_addNonce_eq,
    cVoteRegistration_addVotingPurpose_eq, cVoteRegistration_finalizePayload_eq,
    cVoteRegistration_addSignature_eq, cVoteRegistration_addAuxiliaryScripts_eq, finalize_eq,
    map_ite_eq_some] at h <;> obtain ⟨hg, rfl⟩ := h
  case enter =>
    simp only [Shape, hg] at hb
    simp [Shape, hb]
  case enterPayload =>
    simp only [Shape, hg] at hb
    obtain ⟨f, rfl⟩ := hb
    simp [Shape]
  case addVoteKey k =>
    simp only [Shape, hg.1] at hb
    obtain ⟨f, rfl⟩ := hb
    simp [Shape, hg.2]
  case enterDelegations n =>
    simp only [Shape, hg] at hb
    obtain ⟨f, rfl⟩ := hb
    simp only [Shape, state_absorb, cVoteRegistrationData_absorb]
    exact ⟨f, n, [], by simp, by simp, by simp [delegationCalls]⟩
  case addDelegation k w =>
    obtain ⟨hs, h0, hk⟩ := hg
    simp only [Shape, hs] at hb
    obtain ⟨f, n, ds, hkeys, hlen, rfl⟩ := hb
    have hsub := UInt32.toNat_sub_of_le b.cVoteRegistrationData.remainingDelegations 1 h0
    rw [pos_iff_toNat_pos] at h0
    simp only [Shape, state_absorb, cVoteRegistrationData_absorb, hs]
    refine ⟨f, n, ds ++ [(k, w)], ?_, ?_, by simp [delegationCalls]⟩
    · simp only [List.mem_append, List.mem_singleton]
      rintro d (hd | rfl)
      exacts [hkeys d hd, hk]
    · simp only [List.length_append, List.length_singleton, hsub]
      simp at hlen ⊢
      omega
  case addStakingKey s =>
    simp only [Shape, state_absorb]
    obtain ⟨hs | ⟨hs, h0⟩, hk⟩ := hg
    · simp only [Shape, hs] at hb
      obtain ⟨f, k, hk', rfl⟩ := hb
      exact ⟨f, .voteKey k, s, hk', hk, by simp [VoteKeyField.calls]⟩
    · simp only [Shape, hs, h0] at hb
      obtain ⟨f, n, ds, hkeys, hlen, rfl⟩ := hb
      exact ⟨f, .delegations n ds, s, ⟨by simpa using hlen, hkeys⟩, hk, by simp [VoteKeyField.calls]⟩
  case addPaymentAddress a =>
    obtain ⟨ha0, ha1, hs⟩ := hg
    simp only [Shape, hs] at hb
    obtain ⟨f, v, s, hv, hk, rfl⟩ := hb
    simp only [Shape, state_absorb]
    exact ⟨f, v, s, a, hv, hk, ha0, ha1, by simp⟩
  case addNonce x =>
    simp only [Shape, hg] at hb
    obtain ⟨f, v, s, a, hv, hk, ha0, ha1, rfl⟩ := hb
    simp only [Shape, state_absorb]
    exact ⟨⟨f, v, s, a, x, none, List.replicate ED25519_SIGNATURE_LENGTH 0⟩, 0,
      ⟨hv, hk, ha0, ha1, List.length_replicate ..⟩, rfl,
      by simp [Registration.payloadCalls, Registration.headCalls, finalizePayloads]⟩
  case addVotingPurpose v =>
    simp only [Shape, hg] at hb
    obtain ⟨r, before, hr, -, rfl⟩ := hb
    simp only [Shape, state_absorb]
    exact ⟨{ r with votingPurpose := some v }, before, 0,
      ⟨hr.vote, hr.stakingPubKey, hr.address_pos, hr.address_lt, hr.signature⟩, rfl,
      by simp [Registration.votingPurposeCalls, finalizePayloads]; rfl⟩
  case finalizePayload outSize =>
    obtain ⟨hs | hs, ho⟩ := hg
    all_goals
      simp only [Shape, hs] at hb ⊢
      rw [eq_of_toNat_eq ho]
    · obtain ⟨r, before, hr, hvp, rfl⟩ := hb
      exact ⟨r, before + 1, hr, hvp, by simp [finalizePayloads_succ]⟩
    · obtain ⟨r, before, after, hr, hvp, rfl⟩ := hb
      exact ⟨r, before, after + 1, hr, hvp, by simp [votingPurposeCalls_succ hvp]⟩
  case addSignature sig =>
    simp only [Shape, state_absorbAuxData]
    obtain ⟨hs | hs, hsig⟩ := hg <;> simp only [Shape, hs] at hb
    · obtain ⟨r, before, hr, hvp, rfl⟩ := hb
      exact ⟨{ r with signature := sig }, before, 0,
        ⟨hr.vote, hr.stakingPubKey, hr.address_pos, hr.address_lt, hsig⟩,
        by simp [Registration.votingPurposeCalls, hvp]; rfl⟩
    · obtain ⟨r, before, after, hr, -, rfl⟩ := hb
      exact ⟨{ r with signature := sig }, before, after,
        ⟨hr.vote, hr.stakingPubKey, hr.address_pos, hr.address_lt, hsig⟩, rfl⟩
  case addAuxiliaryScripts =>
    simp only [Shape, hg] at hb
    obtain ⟨r, before, after, hr, rfl⟩ := hb
    simp only [Shape, state_absorbAuxData]
    exact ⟨r, before, after, hr, by simp⟩
  case finalize outSize =>
    simp only [Shape, hg.1] at hb
    obtain ⟨r, before, after, hr, rfl⟩ := hb
    simp only [Shape]
    exact ⟨r, before, after, hr, by
      simp [Registration.calls, Registration.closingCalls, eq_of_toNat_eq hg.2]⟩

/-- **Every run keeps the history invariant.** -/
theorem shape_run {b : AuxDataHashBuilder} {σ τ : List Call} {r : AuxDataHashBuilder × List Output}
    (hb : Shape b σ) (h : run b τ = some r) : Shape r.1 (σ ++ τ) := by
  induction τ generalizing b σ r with
  | nil => cases h; simpa using hb
  | cons c τ ih =>
    obtain ⟨r₁, h₁, h⟩ := Option.bind_eq_some.mp h
    obtain ⟨r₂, h₂, rfl⟩ := Option.map_eq_some'.mp h
    simpa using ih (shape_step hb h₁) h₂

/-! ### Completing a history -/

/-- A key of the public-key size. -/
def fillerKey : List UInt8 := List.replicate PUBLIC_KEY_SIZE 0

/-- The registration with the given first fields, completed by a zero nonce, no voting purpose and a
zero signature. -/
def complete (f : CVoteRegistrationFormat) (v : VoteKeyField) (s a : List UInt8) : Registration :=
  ⟨f, v, s, a, 0, none, List.replicate ED25519_SIGNATURE_LENGTH 0⟩

theorem complete_valid (f : CVoteRegistrationFormat) {v : VoteKeyField} {s a : List UInt8}
    (hv : v.Valid) (hs : s.length = PUBLIC_KEY_SIZE) (h0 : 0 < a.length)
    (h1 : a.length < BUFFER_SIZE_PARANOIA) : (complete f v s a).Valid :=
  ⟨hv, hs, h0, h1, List.length_replicate ..⟩

theorem complete_filler_valid (f : CVoteRegistrationFormat) :
    (complete f (.voteKey fillerKey) fillerKey [0]).Valid :=
  complete_valid f (List.length_replicate ..) (List.length_replicate ..) (by decide) (by decide)

/-- **The history of every reachable builder extends to a complete call sequence.** -/
theorem shape_completes {b : AuxDataHashBuilder} {σ : List Call} (hb : Shape b σ) :
    ∃ (r : Registration) (before after : Nat), r.Valid ∧ σ <+: r.calls before after := by
  cases hs : b.state <;> simp only [Shape, hs] at hb
  case init =>
    exact ⟨_, 0, 0, complete_filler_valid .CIP15, by simp [hb]⟩
  case inCVoteRegistrationInit | inCVoteRegistrationPayloadInit =>
    obtain ⟨f, rfl⟩ := hb
    exact ⟨_, 0, 0, complete_filler_valid f, by simp [Registration.calls, Registration.payloadCalls,
      Registration.headCalls, complete]⟩
  case inCVoteRegistrationPayloadVoteKey =>
    obtain ⟨f, k, hk, rfl⟩ := hb
    exact ⟨complete f (.voteKey k) fillerKey [0], 0, 0,
      complete_valid f hk (List.length_replicate ..) (by decide) (by decide),
      by simp [Registration.calls, Registration.payloadCalls, Registration.headCalls, complete,
        VoteKeyField.calls]⟩
  case inCVoteRegistrationPayloadDelegations =>
    obtain ⟨f, n, ds, hkeys, hlen, rfl⟩ := hb
    let pad := List.replicate b.cVoteRegistrationData.remainingDelegations.toNat
      (fillerKey, (0 : UInt32))
    have hv : (VoteKeyField.delegations n (ds ++ pad)).Valid := by
      refine ⟨by simpa [pad] using hlen, ?_⟩
      simp only [List.mem_append, pad, List.mem_replicate]
      rintro d (hd | ⟨-, rfl⟩)
      exacts [hkeys d hd, List.length_replicate ..]
    exact ⟨complete f (.delegations n (ds ++ pad)) fillerKey [0], 0, 0,
      complete_valid f hv (List.length_replicate ..) (by decide) (by decide),
      by simp [Registration.calls, Registration.payloadCalls, Registration.headCalls, complete,
        VoteKeyField.calls, delegationCalls, List.prefix_append]⟩
  case inCVoteRegistrationPayloadStakingKey =>
    obtain ⟨f, v, s, hv, hk, rfl⟩ := hb
    exact ⟨complete f v s [0], 0, 0, complete_valid f hv hk (by decide) (by decide),
      by simp [Registration.calls, Registration.payloadCalls, Registration.headCalls, complete]⟩
  case inCVoteRegistrationPayloadPaymentAddress =>
    obtain ⟨f, v, s, a, hv, hk, ha0, ha1, rfl⟩ := hb
    exact ⟨complete f v s a, 0, 0, complete_valid f hv hk ha0 ha1,
      by simp [Registration.calls, Registration.payloadCalls, Registration.headCalls, complete]⟩
  case inCVoteRegistrationPayloadNonce =>
    obtain ⟨r, before, hr, hvp, rfl⟩ := hb
    exact ⟨r, before, 0, hr, r.closingCalls,
      by simp [Registration.calls, Registration.votingPurposeCalls, hvp]⟩
  case inCVoteRegistrationPayloadVotingPurpose =>
    obtain ⟨r, before, after, hr, -, rfl⟩ := hb
    exact ⟨r, before, after, hr, r.closingCalls, rfl⟩
  case inCVoteRegistrationSignature =>
    obtain ⟨r, before, after, hr, rfl⟩ := hb
    exact ⟨r, before, after, hr, [.addAuxiliaryScripts, .finalize 32],
      by simp [Registration.calls, Registration.closingCalls]⟩
  case inAuxiliaryScripts =>
    obtain ⟨r, before, after, hr, rfl⟩ := hb
    exact ⟨r, before, after, hr, [.finalize 32],
      by simp [Registration.calls, Registration.closingCalls]⟩
  case finished =>
    obtain ⟨r, before, after, hr, rfl⟩ := hb
    exact ⟨r, before, after, hr, List.prefix_refl _⟩

/-! ### The accepted language -/

/-- **The accepted language.** A call sequence after `init` passes all `ASSERT`s iff it is a prefix of
`r.calls before after` for a valid registration `r`. -/
theorem accepted_iff_prefix_calls (b : AuxDataHashBuilder) (σ : List Call) :
    (run (init b) σ).isSome ↔
      ∃ (r : Registration) (before after : Nat), r.Valid ∧ σ <+: r.calls before after := by
  constructor
  · intro h
    obtain ⟨res, hres⟩ := Option.isSome_iff_exists.mp h
    exact shape_completes (by simpa using shape_run (shape_init b) hres)
  · rintro ⟨r, before, after, hr, t, ht⟩
    obtain ⟨bf, outs, h, -⟩ := run_calls b hr before after
    exact run_isSome_of_append (τ := t) (by rw [ht, h]; rfl)

/-- A run that ends with an accepted `finalize` ends in the finished state. -/
theorem state_of_run_finalize {b : AuxDataHashBuilder} {σ : List Call} {outSize : UInt32}
    {res : AuxDataHashBuilder × List Output} (h : run b (σ ++ [.finalize outSize]) = some res) :
    res.1.state = .finished := by
  obtain ⟨r₁, r₂, -, h₂, rfl⟩ := run_append_eq_some h
  rw [run_singleton, step, finalize_eq] at h₂
  split_ifs at h₂ <;> simp at h₂
  cases h₂; rfl

/-- No call is accepted in the finished state. -/
theorem step_finished {b : AuxDataHashBuilder} (h : b.state = .finished) (c : Call) :
    step b c = none := by
  cases c <;> simp [step, cVoteRegistration_enter_eq, cVoteRegistration_enterPayload_eq,
    cVoteRegistration_addVoteKey_eq, cVoteRegistration_enterDelegations_eq,
    cVoteRegistration_addDelegation_eq, cVoteRegistration_addStakingKey_eq,
    cVoteRegistration_addPaymentAddress_eq, cVoteRegistration_addNonce_eq,
    cVoteRegistration_addVotingPurpose_eq, cVoteRegistration_finalizePayload_eq,
    cVoteRegistration_addSignature_eq, cVoteRegistration_addAuxiliaryScripts_eq, finalize_eq, h]

/-- **`finalize` ends the operation**: once it is accepted, every further call aborts. -/
theorem finalize_ends_operation (b : AuxDataHashBuilder) (σ τ : List Call) (outSize : UInt32)
    (c : Call) (res : AuxDataHashBuilder × List Output)
    (h : run (init b) (σ ++ [.finalize outSize]) = some res) :
    run (init b) (σ ++ [.finalize outSize] ++ c :: τ) = none := by
  rw [run_append, h]
  simp [run_cons, step_finished (state_of_run_finalize h)]

/-- A builder value to start from. -/
def someBuilder : AuxDataHashBuilder := ⟨.init, [], ⟨.CIP15, 0, []⟩⟩

/-- A complete CIP-15 registration without a voting purpose, up to the script list. -/
def cip15Registration : List Call :=
  [.enter .CIP15, .enterPayload, .addVoteKey fillerKey, .addStakingKey fillerKey,
    .addPaymentAddress [0], .addNonce 0, .finalizePayload 32,
    .addSignature (List.replicate ED25519_SIGNATURE_LENGTH 0), .addAuxiliaryScripts]

theorem finalize_ends_operation_cip15 :
    ∃ res, run (init someBuilder) (cip15Registration ++ [.finalize 32]) = some res ∧
      run (init someBuilder) (cip15Registration ++ [.finalize 32] ++ [.finalize 32]) = none := by
  obtain ⟨res, h⟩ := Option.isSome_iff_exists.mp
    (by decide : (run (init someBuilder) (cip15Registration ++ [.finalize 32])).isSome)
  exact ⟨res, h, finalize_ends_operation someBuilder cip15Registration [] 32 (.finalize 32) res h⟩

/-! ### The grammar of the spec -/

/-- The argument conditions of `G_f`, keys of the public-key size, a nonempty
payment address and a signature of the signature length. -/
structure GrammarArgs (r : Registration) : Prop where
  vote : r.vote.Valid
  stakingPubKey : r.stakingPubKey.length = PUBLIC_KEY_SIZE
  address_pos : 0 < r.address.length
  signature : r.signature.length = ED25519_SIGNATURE_LENGTH

/-- The word of `G_f` for the arguments of `r`, `f` the format of `r`. -/
def grammarWord (r : Registration) : List Call :=
  [.enter r.format, .enterPayload] ++ r.vote.calls ++
    [.addStakingKey r.stakingPubKey, .addPaymentAddress r.address, .addNonce r.nonce] ++
    (match r.votingPurpose with
     | none => []
     | some votingPurpose => [.addVotingPurpose votingPurpose]) ++
    [.finalizePayload 32, .addSignature r.signature, .addAuxiliaryScripts, .finalize 32]

/-- `w` is a word of `G_f`; its voting purpose is there exactly for CIP-36. -/
def InGrammar (f : CVoteRegistrationFormat) (w : List Call) : Prop :=
  ∃ r : Registration, r.format = f ∧ GrammarArgs r ∧ (r.votingPurpose.isSome ↔ f = .CIP36) ∧
    w = grammarWord r

/-- A CIP-15 registration with a voting purpose, up to the voting purpose. -/
def cip15WithVotingPurpose : List Call :=
  [.enter .CIP15, .enterPayload, .addVoteKey fillerKey, .addStakingKey fillerKey,
    .addPaymentAddress [0], .addNonce 0, .addVotingPurpose 0]

/-- A registration with a payment address of `BUFFER_SIZE_PARANOIA` bytes, up to the address. -/
def longAddress : List Call :=
  [.enter .CIP15, .enterPayload, .addVoteKey fillerKey, .addStakingKey fillerKey,
    .addPaymentAddress (List.replicate BUFFER_SIZE_PARANOIA 0)]

theorem cip15WithVotingPurpose_not_prefix (f : CVoteRegistrationFormat) (w : List Call)
    (hw : InGrammar f w) : ¬ cip15WithVotingPurpose <+: w := by
  obtain ⟨⟨fmt, v, s, a, x, vp, sig⟩, rfl, -, hvp, rfl⟩ := hw
  cases v <;> cases vp <;>
    simp_all [cip15WithVotingPurpose, grammarWord, VoteKeyField.calls, delegationCalls]

/-- A payment address of `BUFFER_SIZE_PARANOIA` bytes or more aborts every run at that call. -/
theorem run_long_address_eq_none (b : AuxDataHashBuilder) (σ τ : List Call) {address : List UInt8}
    (ha : BUFFER_SIZE_PARANOIA ≤ address.length) :
    run b (σ ++ .addPaymentAddress address :: τ) = none := by
  have hstep : ∀ b', step b' (.addPaymentAddress address) = none := fun b' => by
    simp [step, cVoteRegistration_addPaymentAddress_eq, Nat.not_lt.mpr ha]
  rw [run_append]
  cases run b σ <;> simp [run_cons, hstep]

/-- **`G_f` is not the accepted language**, in either direction. -/
theorem grammar_differs_from_accepted :
    ¬ (∀ b σ, (run (init b) σ).isSome → ∃ f w, InGrammar f w ∧ σ <+: w) ∧
    ¬ (∀ b σ, (∃ f w, InGrammar f w ∧ σ <+: w) → (run (init b) σ).isSome) := by
  constructor
  · intro h
    obtain ⟨f, w, hw, hpre⟩ := h someBuilder cip15WithVotingPurpose (by decide)
    exact cip15WithVotingPurpose_not_prefix f w hw hpre
  · intro h
    let r : Registration := ⟨.CIP15, .voteKey fillerKey, fillerKey,
      List.replicate BUFFER_SIZE_PARANOIA 0, 0, none, List.replicate ED25519_SIGNATURE_LENGTH 0⟩
    have hr : GrammarArgs r := ⟨List.length_replicate .., List.length_replicate ..,
      by simp only [r, List.length_replicate]; decide, List.length_replicate ..⟩
    have hpre : longAddress <+: grammarWord r := by
      simp [longAddress, grammarWord, VoteKeyField.calls, r]
    have hrejected : run (init someBuilder) longAddress = none :=
      run_long_address_eq_none _ [.enter .CIP15, .enterPayload, .addVoteKey fillerKey,
        .addStakingKey fillerKey] [] (List.length_replicate ..).ge
    simpa [hrejected] using h someBuilder longAddress ⟨.CIP15, _, ⟨r, rfl, hr, by decide, rfl⟩, hpre⟩

end AuxDataHash.Language
