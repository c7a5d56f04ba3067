import AuxDataHash.Run

/-! # What `init` leaves behind

`init` resets both contexts and the state but neither the format nor the delegation countdown, so a
builder reused for a second signing operation still carries the first one's values. They never show:
`enter` stores the format before `enterPayload` reads it, and `enterDelegations` stores the countdown
before `addDelegation` or `addStakingKey` read it.

`observable` keeps of a builder what some later call can read: the state, the two contexts, the format
once `enter` has stored it and the countdown while the delegations are added. `step_observable`: a call
cannot tell a builder from its observable part; `run_congr`: nor can any sequence of calls.

* `init_forgets_stale_fields`: after `init`, two builders with any prior contents give the same outcome
  for every call sequence, the same streams in both contexts and the same digests. -/

namespace AuxDataHash.Reset

open AuxDataHash.Cbor AuxDataHash.Builder AuxDataHash.Spec AuxDataHash.Run

/-- The part of a builder that a later call can read. -/
def observable (b : AuxDataHashBuilder) : AuxDataHashBuilder :=
  ⟨b.state, b.auxDataHash,
    ⟨if b.state = .init then .CIP15 else b.cVoteRegistrationData.format,
      if b.state = .inCVoteRegistrationPayloadDelegations then
        b.cVoteRegistrationData.remainingDelegations else 0,
      b.cVoteRegistrationData.payloadHash⟩⟩

/-- A builder and the result of a call, seen through `observable`. -/
def observe {α : Type} (r : AuxDataHashBuilder × α) : AuxDataHashBuilder × α :=
  (observable r.1, r.2)

@[simp] theorem state_observable (b : AuxDataHashBuilder) : (observable b).state = b.state := rfl

@[simp] theorem auxDataHash_observable (b : AuxDataHashBuilder) :
    (observable b).auxDataHash = b.auxDataHash := rfl

@[simp] theorem payloadHash_observable (b : AuxDataHashBuilder) :
    (observable b).cVoteRegistrationData.payloadHash = b.cVoteRegistrationData.payloadHash := rfl

@[simp] theorem observable_absorb (x : List UInt8) (b : AuxDataHashBuilder) :
    observable (absorb x b) = absorb x (observable b) := rfl

@[simp] theorem observable_absorbAuxData (x : List UInt8) (b : AuxDataHashBuilder) :
    observable (absorbAuxData x b) = absorbAuxData x (observable b) := rfl

/-- Outside `init` and the delegation state, the countdown is hidden. -/
@[simp] theorem observable_mk {s : AuxDataHashBuilderState} (A : List UInt8)
    (d : CVoteRegistrationData) (hs : s ≠ .init) (hd : s ≠ .inCVoteRegistrationPayloadDelegations) :
    observable ⟨s, A, d⟩ = ⟨s, A, ⟨d.format, 0, d.payloadHash⟩⟩ := by
  simp [observable, hs, hd]

/-- In the delegation state, everything shows. -/
theorem observable_of_delegations {b : AuxDataHashBuilder}
    (h : b.state = .inCVoteRegistrationPayloadDelegations) : observable b = b := by
  obtain ⟨s, A, d⟩ := b
  cases h
  rfl

@[simp] theorem observable_observable (b : AuxDataHashBuilder) :
    observable (observable b) = observable b := by
  by_cases h₁ : b.state = .init <;>
    by_cases h₂ : b.state = .inCVoteRegistrationPayloadDelegations <;> simp [observable, h₁, h₂]

theorem format_observable {b : AuxDataHashBuilder} (h : b.state ≠ .init) :
    (observable b).cVoteRegistrationData.format = b.cVoteRegistrationData.format := by
  simp [observable, h]

/-- **A call cannot tell a builder from its observable part.** `enterPayload` reads the format after
`enter` has stored it; `addDelegation` and `addStakingKey` read the countdown in the delegation state,
where everything shows; every other call reads the state alone. -/
theorem step_observable (b : AuxDataHashBuilder) (c : Call) :
    (step (observable b) c).map observe = (step b c).map observe := by
  cases c with
  | enter f =>
    simp only [step, cVoteRegistration_enter_eq, state_observable]
    split_ifs <;> simp [observe]
  | enterPayload =>
    simp only [step, cVoteRegistration_enterPayload_eq, state_observable]
    by_cases hs : b.state = .inCVoteRegistrationInit
    · simp [observe, format_observable, hs]
    · simp [hs]
  | enterDelegations n =>
    simp only [step, cVoteRegistration_enterDelegations_eq, state_observable]
    split_ifs with hs <;> simp [observe, observable, hs]
  | addDelegation key weight =>
    by_cases hs : b.state = .inCVoteRegistrationPayloadDelegations
    · rw [observable_of_delegations hs]
    · simp [step, cVoteRegistration_addDelegation_eq, hs]
  | addStakingKey key =>
    by_cases hs : b.state = .inCVoteRegistrationPayloadDelegations
    · rw [observable_of_delegations hs]
    · simp only [step, cVoteRegistration_addStakingKey_eq, state_observable, hs, false_and,
        or_false]
      split_ifs with hv <;> simp [observe, format_observable, hv]
  | finalizePayload outSize =>
    simp only [step, cVoteRegistration_finalizePayload_eq, state_observable]
    split_ifs <;> simp [observe]
  | _ =>
    simp only [step, cVoteRegistration_addVoteKey_eq, cVoteRegistration_addPaymentAddress_eq,
      cVoteRegistration_addNonce_eq, cVoteRegistration_addVotingPurpose_eq,
      cVoteRegistration_addSignature_eq, cVoteRegistration_addAuxiliaryScripts_eq, finalize_eq,
      state_observable]
    split_ifs with hs
    · have hb : b.state ≠ .init := fun h => by simp [h] at hs
      simp [observe, format_observable hb]
    · rfl

theorem run_congr {b₁ b₂ : AuxDataHashBuilder} (h : observable b₁ = observable b₂) (σ : List Call) :
    (run b₁ σ).map observe = (run b₂ σ).map observe := by
  induction σ generalizing b₁ b₂ with
  | nil => simp [observe, h]
  | cons c σ ih =>
    have hs : (step b₁ c).map observe = (step b₂ c).map observe := by
      rw [← step_observable b₁, h, step_observable]
    have tail : ∀ r₁ r₂ : AuxDataHashBuilder × Output, observe r₁ = observe r₂ →
        ((run r₁.1 σ).map fun r' => (r'.1, r₁.2 :: r'.2)).map observe =
          ((run r₂.1 σ).map fun r' => (r'.1, r₂.2 :: r'.2)).map observe := by
      intro r₁ r₂ he
      have h1 : observable r₁.1 = observable r₂.1 := congrArg Prod.fst he
      have h2 : r₁.2 = r₂.2 := by simpa [observe] using congrArg Prod.snd he
      have key := congrArg (Option.map fun r' => (r'.1, r₁.2 :: r'.2)) (ih h1)
      simpa [Option.map_map, Function.comp_def, observe, h2] using key
    cases h₁ : step b₁ c with
    | none =>
      rw [h₁, Option.map_none'] at hs
      simp [run_cons, h₁, Option.map_eq_none'.mp hs.symm]
    | some r₁ =>
      rw [h₁, Option.map_some'] at hs
      obtain ⟨r₂, h₂, he⟩ := Option.map_eq_some'.mp hs.symm
      simpa [run_cons, h₁, h₂] using tail r₁ r₂ he.symm

theorem observable_init (b : AuxDataHashBuilder) :
    observable (init b) = ⟨.init, cbor_writeToken .array 2, ⟨.CIP15, 0, []⟩⟩ := by
  simp [observable, init_eq]

/-- **No stale field shows.** After `init`, two builders with any earlier contents give the same result
for every call sequence: both abort, or both succeed in the same state with the same bytes absorbed by
both contexts and the same digests written. -/
theorem init_forgets_stale_fields (b₁ b₂ : AuxDataHashBuilder) (σ : List Call) :
    (run (init b₁) σ).map (fun r =>
        (r.1.state, r.1.auxDataHash, r.1.cVoteRegistrationData.payloadHash, r.2)) =
      (run (init b₂) σ).map (fun r =>
        (r.1.state, r.1.auxDataHash, r.1.cVoteRegistrationData.payloadHash, r.2)) := by
  have h := congrArg (Option.map fun r =>
      (r.1.state, r.1.auxDataHash, r.1.cVoteRegistrationData.payloadHash, r.2))
    (run_congr ((observable_init b₁).trans (observable_init b₂).symm) σ)
  simpa [Option.map_map, Function.comp_def, observe, observable] using h

end AuxDataHash.Reset
