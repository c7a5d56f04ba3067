import AuxDataHash.Spec

/-! # Call sequences

A caller drives the builder by a sequence of entry-point calls after `init`. `Call` names one call with
its arguments, `step` runs it, and `run` runs a sequence: the builder after it and what each call wrote to
its output buffer, or `none` as soon as one call aborts (an `ASSERT` failure stops the operation).

* `run_append`: a run of `σ ++ τ` is the run of `σ` followed by the run of `τ`;
* `run_isSome_of_append`: a prefix of an accepted sequence is accepted;
* `run_outputs_none`: only `finalizePayload` and `finalize` write to their output buffer. -/

namespace AuxDataHash.Run

open AuxDataHash.Cbor AuxDataHash.Builder AuxDataHash.Spec

/-- One call of an entry point other than `init`, with its arguments. -/
inductive Call where
  | enter (format : CVoteRegistrationFormat)
  | enterPayload
  | addVoteKey (votePubKey : List UInt8)
  | enterDelegations (numDelegations : UInt32)
  | addDelegation (votePubKey : List UInt8) (weight : UInt32)
  | addStakingKey (stakingPubKey : List UInt8)
  | addPaymentAddress (address : List UInt8)
  | addNonce (nonce : UInt64)
  | addVotingPurpose (votingPurpose : UInt64)
  | finalizePayload (outSize : UInt32)
  | addSignature (signature : List UInt8)
  | addAuxiliaryScripts
  | finalize (outSize : UInt32)
  deriving DecidableEq, Repr

/-- What a call writes to its output buffer: the message of the digest, for the two finalizing calls. -/
abbrev Output := Option (List UInt8)

/-- The two calls that write a digest to their output buffer. -/
def Call.writesOutput : Call → Bool
  | .finalizePayload _ | .finalize _ => true
  | .enter _ | .enterPayload | .addVoteKey _ | .enterDelegations _ | .addDelegation _ _
  | .addStakingKey _ | .addPaymentAddress _ | .addNonce _ | .addVotingPurpose _ | .addSignature _
  | .addAuxiliaryScripts => false

/-- One call: the new builder and the call's output. -/
def step (b : AuxDataHashBuilder) : Call → Option (AuxDataHashBuilder × Output)
  | .enter format => (cVoteRegistration_enter format b).map (·, none)
  | .enterPayload => (cVoteRegistration_enterPayload b).map (·, none)
  | .addVoteKey votePubKey => (cVoteRegistration_addVoteKey votePubKey b).map (·, none)
  | .enterDelegations numDelegations =>
    (cVoteRegistration_enterDelegations numDelegations b).map (·, none)
  | .addDelegation votePubKey weight =>
    (cVoteRegistration_addDelegation votePubKey weight b).map (·, none)
  | .addStakingKey stakingPubKey => (cVoteRegistration_addStakingKey stakingPubKey b).map (·, none)
  | .addPaymentAddress address => (cVoteRegistration_addPaymentAddress address b).map (·, none)
  | .addNonce nonce => (cVoteRegistration_addNonce nonce b).map (·, none)
  | .addVotingPurpose votingPurpose =>
    (cVoteRegistration_addVotingPurpose votingPurpose b).map (·, none)
  | .finalizePayload outSize => (cVoteRegistration_finalizePayload outSize b).map (b, some ·)
  | .addSignature signature => (cVoteRegistration_addSignature signature b).map (·, none)
  | .addAuxiliaryScripts => (cVoteRegistration_addAuxiliaryScripts b).map (·, none)
  | .finalize outSize => (finalize outSize b).map fun r => (r.1, some r.2)

/-- A sequence of calls: the builder after them and the output of each call, or `none` if one
aborts. -/
def run (b : AuxDataHashBuilder) : List Call → Option (AuxDataHashBuilder × List Output)
  | [] => some (b, [])
  | c :: cs => (step b c).bind fun r => (run r.1 cs).map fun r' => (r'.1, r.2 :: r'.2)

@[simp] theorem run_nil (b : AuxDataHashBuilder) : run b [] = some (b, []) := rfl

theorem run_cons (b : AuxDataHashBuilder) (c : Call) (cs : List Call) :
    run b (c :: cs) = (step b c).bind fun r => (run r.1 cs).map fun r' => (r'.1, r.2 :: r'.2) := rfl

theorem run_append (b : AuxDataHashBuilder) (σ τ : List Call) :
    run b (σ ++ τ) =
      (run b σ).bind fun r => (run r.1 τ).map fun r' => (r'.1, r.2 ++ r'.2) := by
  induction σ generalizing b with
  | nil => simp
  | cons c σ ih =>
    simp only [List.cons_append, run_cons, ih, Option.bind_assoc]
    congr 1; funext r
    cases run r.1 σ <;> simp [Option.map_bind', Function.comp_def]

theorem run_append_eq_some {b : AuxDataHashBuilder} {σ τ : List Call}
    {r : AuxDataHashBuilder × List Output} (h : run b (σ ++ τ) = some r) :
    ∃ r₁ r₂, run b σ = some r₁ ∧ run r₁.1 τ = some r₂ ∧ r = (r₂.1, r₁.2 ++ r₂.2) := by
  rw [run_append] at h
  obtain ⟨r₁, h₁, h⟩ := Option.bind_eq_some.mp h
  obtain ⟨r₂, h₂, rfl⟩ := Option.map_eq_some'.mp h
  exact ⟨r₁, r₂, h₁, h₂, rfl⟩

theorem run_append_of_eq_some {b : AuxDataHashBuilder} {σ τ : List Call}
    {r₁ r₂ : AuxDataHashBuilder × List Output} (h₁ : run b σ = some r₁) (h₂ : run r₁.1 τ = some r₂) :
    run b (σ ++ τ) = some (r₂.1, r₁.2 ++ r₂.2) := by
  simp [run_append, h₁, h₂]

/-- A prefix of an accepted sequence is accepted. -/
theorem run_isSome_of_append {b : AuxDataHashBuilder} {σ τ : List Call}
    (h : (run b (σ ++ τ)).isSome) : (run b σ).isSome := by
  obtain ⟨r, hr⟩ := Option.isSome_iff_exists.mp h
  obtain ⟨r₁, -, h₁, -⟩ := run_append_eq_some hr
  simp [h₁]

theorem run_singleton (b : AuxDataHashBuilder) (c : Call) :
    run b [c] = (step b c).map fun r => (r.1, [r.2]) := by
  simp only [run_cons, run_nil]
  cases step b c <;> rfl

/-- A call other than `finalizePayload` and `finalize` writes nothing. -/
theorem step_output_none {b : AuxDataHashBuilder} {c : Call} {r : AuxDataHashBuilder × Output}
    (hc : c.writesOutput = false) (h : step b c = some r) : r.2 = none := by
  cases c <;> simp only [step, Option.map_eq_some'] at h <;> obtain ⟨_, -, rfl⟩ := h <;>
    first | rfl | simp [Call.writesOutput] at hc

theorem run_outputs_none {b : AuxDataHashBuilder} {σ : List Call}
    {r : AuxDataHashBuilder × List Output} (hσ : ∀ c ∈ σ, c.writesOutput = false)
    (h : run b σ = some r) : r.2 = List.replicate σ.length none := by
  induction σ generalizing b r with
  | nil => cases h; rfl
  | cons c σ ih =>
    obtain ⟨r₁, h₁, h⟩ := Option.bind_eq_some.mp h
    obtain ⟨r₂, h₂, rfl⟩ := Option.map_eq_some'.mp h
    simp only [List.forall_mem_cons] at hσ
    simp [step_output_none hσ.1 h₁, ih hσ.2 h₂, List.replicate_succ]

end AuxDataHash.Run
