import AuxDataHash.Run

/-! # The two contexts in lockstep

From `enter` on, the inner (payload) context is fed the same bytes as the outer one, under a different
framing: the outer stream is `array(2) map(2) P T` and the inner one `map(1) P`, for one payload segment
`P` and a tail `T` that only the outer context absorbs (the signature entry and the empty script list).

* `lockstep_run`, `reachable_lockstep`: every state reached from `init` is framed so (`Lockstep`).
* `afterPayload_run`: after a `finalizePayload` call the payload segment grows only by the entries of the
  `addVotingPurpose` calls that follow it (`votingPurposeBytes`). `finalizePayload` leaves the state at
  `NONCE`, so `addVotingPurpose` is still accepted after it.
* `finalizePayload_frames_payload`: in a complete run, a `finalizePayload` call writes the message
  `map(1) P` the inner context holds, `finalize` writes the outer context, and the outer context holds
  `P ++ votingPurposeBytes σ₂` between `map(2)` and the signature entry, `σ₂` the calls after
  `finalizePayload`. -/

namespace AuxDataHash.TwoContexts

open AuxDataHash.Cbor AuxDataHash.Builder AuxDataHash.Spec AuxDataHash.Run

theorem map_ite_eq_some {α β : Type} {p : Prop} [Decidable p] {f : α → β} {x : α} {y : β} :
    Option.map f (if p then some x else none) = some y ↔ p ∧ f x = y := by
  split <;> simp_all

/-- The outer context holds `array(2) map(2) P T` and the inner one `map(1) P`. -/
def Framed (b : AuxDataHashBuilder) (P T : List UInt8) : Prop :=
  b.cVoteRegistrationData.payloadHash = cbor_writeToken .map 1 ++ P ∧
    b.auxDataHash = cbor_writeToken .array 2 ++ cbor_writeToken .map 2 ++ P ++ T

/-- The signature entry `61285: {1: signature}` that `addSignature` feeds to the outer context. -/
def signatureTail (signature : List UInt8) : List UInt8 :=
  cbor_writeToken .unsigned METADATA_KEY_CVOTE_REGISTRATION_SIGNATURE ++ cbor_writeToken .map 1 ++
    cbor_writeToken .unsigned CVOTE_REGISTRATION_SIGNATURE_KEY ++
    cbor_writeToken .bytes signature.length ++ signature

/-- The signature entry and the script list start with the signature label `61285`. -/
theorem head?_signatureTail (signature : List UInt8) :
    (signatureTail signature ++ cbor_writeToken .array 0).head? = some 0x19 := by
  have hlabel : cbor_writeToken .unsigned METADATA_KEY_CVOTE_REGISTRATION_SIGNATURE = [0x19, 0xEF, 0x65] :=
    by decide
  simp [signatureTail, hlabel]

/-- The states between `enter` and `addSignature`, in which both contexts grow. -/
def InPayload : AuxDataHashBuilderState → Prop
  | .inCVoteRegistrationInit | .inCVoteRegistrationPayloadInit | .inCVoteRegistrationPayloadVoteKey
  | .inCVoteRegistrationPayloadDelegations | .inCVoteRegistrationPayloadStakingKey
  | .inCVoteRegistrationPayloadPaymentAddress | .inCVoteRegistrationPayloadNonce
  | .inCVoteRegistrationPayloadVotingPurpose => True
  | _ => False

/-- **The lockstep invariant**: the framing of the two streams in each state. -/
def Lockstep (b : AuxDataHashBuilder) : Prop :=
  match b.state with
  | .init => b.auxDataHash = cbor_writeToken .array 2 ∧ b.cVoteRegistrationData.payloadHash = []
  | .inCVoteRegistrationSignature => ∃ P sig, Framed b P (signatureTail sig)
  | .inAuxiliaryScripts | .finished =>
    ∃ P sig, Framed b P (signatureTail sig ++ cbor_writeToken .array 0)
  | _ => ∃ P, Framed b P []

theorem framed_absorb {b : AuxDataHashBuilder} {P x : List UInt8} (h : Framed b P []) :
    Framed (absorb x b) (P ++ x) [] := by
  obtain ⟨h1, h2⟩ := h
  simp [Framed, h1, h2]

theorem framed_absorbAuxData {b : AuxDataHashBuilder} {P T x : List UInt8} (h : Framed b P T) :
    Framed (absorbAuxData x b) P (T ++ x) := by
  obtain ⟨h1, h2⟩ := h
  simp [Framed, h1, h2]

theorem framed_of_lockstep {b : AuxDataHashBuilder} (hs : InPayload b.state) (hb : Lockstep b) :
    ∃ P, Framed b P [] := by
  unfold Lockstep at hb
  split at hb <;> simp_all [InPayload]

theorem lockstep_of_framed {b : AuxDataHashBuilder} {P : List UInt8} (hs : InPayload b.state)
    (hb : Framed b P []) : Lockstep b := by
  unfold Lockstep
  split <;> simp_all [InPayload]
  all_goals exact ⟨P, hb⟩

theorem lockstep_absorb {b b' : AuxDataHashBuilder} {x : List UInt8} (hs : InPayload b.state)
    (hs' : InPayload b'.state) (hb : Lockstep b) (hb' : b'.auxDataHash = (absorb x b).auxDataHash)
    (hp' : b'.cVoteRegistrationData.payloadHash = (absorb x b).cVoteRegistrationData.payloadHash) :
    Lockstep b' := by
  obtain ⟨P, h1, h2⟩ := framed_of_lockstep hs hb
  exact lockstep_of_framed hs' (P := P ++ x) ⟨by simp [hp', h1], by simp [hb', h2]⟩

theorem lockstep_init (b : AuxDataHashBuilder) : Lockstep (init b) := by
  simp [Lockstep, init_eq]

/-- Each call keeps the framing. -/
theorem lockstep_step {b : AuxDataHashBuilder} {c : Call} {r : AuxDataHashBuilder × Output}
    (hb : Lockstep b) (h : step b c = some r) : Lockstep r.1 := by
  cases c <;> simp only [step, cVoteRegistration_enter_eq, cVoteRegistration_enterPayload_eq,
    cVoteRegistration_addVoteKey_eq, cVoteRegistration_enterDelegations_eq,
    cVoteRegistration_addDelegation_eq, cVoteRegistration_addStakingKey_eq,
    cVoteRegistration_addPaymentAddress_eq, cVoteRegistration_addNonce_eq,
    cVoteRegistration_addVotingPurpose_eq, cVoteRegistration_finalizePayload_eq,
    cVoteRegistration_addSignature_eq, cVoteRegistration_addAuxiliaryScripts_eq, finalize_eq,
    map_ite_eq_some] at h <;> obtain ⟨hg, rfl⟩ := h
  case enter =>
    simp only [Lockstep, hg] at hb
    exact ⟨[], by simp [Framed, hb]⟩
  case enterPayload => exact lockstep_absorb (by simp [hg, InPayload]) trivial hb rfl rfl
  case addVoteKey => exact lockstep_absorb (by simp [hg.1, InPayload]) trivial hb rfl rfl
  case enterDelegations => exact lockstep_absorb (by simp [hg, InPayload]) trivial hb rfl rfl
  case addDelegation =>
    exact lockstep_absorb (by simp [hg.1, InPayload]) (by simp [hg.1, InPayload]) hb rfl rfl
  case addStakingKey =>
    exact lockstep_absorb (by rcases hg.1 with h | ⟨h, -⟩ <;> simp [h, InPayload]) trivial hb rfl rfl
  case addPaymentAddress => exact lockstep_absorb (by simp [hg.2.2, InPayload]) trivial hb rfl rfl
  case addNonce => exact lockstep_absorb (by simp [hg, InPayload]) trivial hb rfl rfl
  case addVotingPurpose => exact lockstep_absorb (by simp [hg, InPayload]) trivial hb rfl rfl
  case finalizePayload => exact hb
  case addSignature s =>
    obtain ⟨P, hP⟩ := framed_of_lockstep (by rcases hg.1 with h | h <;> simp [h, InPayload]) hb
    exact ⟨P, s, by simpa [signatureTail] using framed_absorbAuxData hP⟩
  case addAuxiliaryScripts =>
    simp only [Lockstep, hg] at hb
    obtain ⟨P, sig, hP⟩ := hb
    exact ⟨P, sig, framed_absorbAuxData hP⟩
  case finalize =>
    simp only [Lockstep, hg.1] at hb
    exact hb

theorem lockstep_run {b : AuxDataHashBuilder} {σ : List Call} {r : AuxDataHashBuilder × List Output}
    (hb : Lockstep b) (h : run b σ = some r) : Lockstep r.1 := by
  induction σ generalizing b r with
  | nil => cases h; exact hb
  | cons c σ ih =>
    obtain ⟨r₁, h₁, h⟩ := Option.bind_eq_some.mp h
    obtain ⟨r₂, h₂, rfl⟩ := Option.map_eq_some'.mp h
    exact ih (r := r₂) (lockstep_step hb h₁) h₂

/-- The payload entry a call adds once the payload digest has been taken: only `addVotingPurpose`,
the one payload call accepted in `NONCE`, adds one. -/
def votingPurposeEntry : Call → List UInt8
  | .addVotingPurpose votingPurpose =>
    cbor_writeToken .unsigned CVOTE_REGISTRATION_PAYLOAD_VOTING_PURPOSE ++
      cbor_writeToken .unsigned votingPurpose.toNat
  | _ => []

/-- The payload entries of the `addVotingPurpose` calls of a sequence. -/
def votingPurposeBytes (cs : List Call) : List UInt8 := cs.flatMap votingPurposeEntry

/-- The framing after a `finalizePayload` call, with payload segment `Q` so far. -/
def AfterPayload (Q : List UInt8) (b : AuxDataHashBuilder) : Prop :=
  match b.state with
  | .inCVoteRegistrationPayloadNonce | .inCVoteRegistrationPayloadVotingPurpose => Framed b Q []
  | .inCVoteRegistrationSignature => ∃ sig, Framed b Q (signatureTail sig)
  | .inAuxiliaryScripts | .finished => ∃ sig, Framed b Q (signatureTail sig ++ cbor_writeToken .array 0)
  | _ => False

/-- From `NONCE` on, a call extends the payload segment by its voting-purpose entry only. -/
theorem afterPayload_step {Q : List UInt8} {b : AuxDataHashBuilder} {c : Call}
    {r : AuxDataHashBuilder × Output} (hb : AfterPayload Q b) (h : step b c = some r) :
    AfterPayload (Q ++ votingPurposeEntry c) r.1 := by
  cases c <;> simp only [step, cVoteRegistration_enter_eq, cVoteRegistration_enterPayload_eq,
    cVoteRegistration_addVoteKey_eq, cVoteRegistration_enterDelegations_eq,
    cVoteRegistration_addDelegation_eq, cVoteRegistration_addStakingKey_eq,
    cVoteRegistration_addPaymentAddress_eq, cVoteRegistration_addNonce_eq,
    cVoteRegistration_addVotingPurpose_eq, cVoteRegistration_finalizePayload_eq,
    cVoteRegistration_addSignature_eq, cVoteRegistration_addAuxiliaryScripts_eq, finalize_eq,
    map_ite_eq_some] at h <;> obtain ⟨hg, rfl⟩ := h <;>
    simp only [votingPurposeEntry, List.append_nil]
  case enter => simp [AfterPayload, hg] at hb
  case enterPayload => simp [AfterPayload, hg] at hb
  case addVoteKey => simp [AfterPayload, hg.1] at hb
  case enterDelegations => simp [AfterPayload, hg] at hb
  case addDelegation => simp [AfterPayload, hg.1] at hb
  case addStakingKey => rcases hg.1 with h | ⟨h, -⟩ <;> simp [AfterPayload, h] at hb
  case addPaymentAddress => simp [AfterPayload, hg.2.2] at hb
  case addNonce => simp [AfterPayload, hg] at hb
  case addVotingPurpose =>
    simp only [AfterPayload, hg] at hb
    exact framed_absorb hb
  case finalizePayload => exact hb
  case addSignature s =>
    have hP : Framed b Q [] := by rcases hg.1 with h | h <;> simpa only [AfterPayload, h] using hb
    exact ⟨s, by simpa [signatureTail] using framed_absorbAuxData hP⟩
  case addAuxiliaryScripts =>
    simp only [AfterPayload, hg] at hb
    obtain ⟨sig, hP⟩ := hb
    exact ⟨sig, framed_absorbAuxData hP⟩
  case finalize =>
    simp only [AfterPayload, hg.1] at hb
    exact hb

theorem afterPayload_run {Q : List UInt8} {σ : List Call} {b : AuxDataHashBuilder}
    {r : AuxDataHashBuilder × List Output} (hb : AfterPayload Q b) (h : run b σ = some r) :
    AfterPayload (Q ++ votingPurposeBytes σ) r.1 := by
  induction σ generalizing Q b r with
  | nil => cases h; simpa [votingPurposeBytes] using hb
  | cons c σ ih =>
    obtain ⟨r₁, h₁, h⟩ := Option.bind_eq_some.mp h
    obtain ⟨r₂, h₂, rfl⟩ := Option.map_eq_some'.mp h
    simpa [votingPurposeBytes] using ih (r := r₂) (afterPayload_step hb h₁) h₂

/-- **The signed payload against the embedded one.** In a run from `init` that ends with `finalize`,
the inner context holds `map(1) P` at a `finalizePayload` call, and the call writes that message; the
last output, of `finalize`, is the outer context. In the end the outer context holds
`P ++ votingPurposeBytes σ₂` between `map(2)` and the signature entry, and the inner one
`map(1) P ++ votingPurposeBytes σ₂`, where `σ₂` are the calls after `finalizePayload`. -/
theorem finalizePayload_frames_payload (b : AuxDataHashBuilder) (σ₁ σ₂ : List Call)
    (outSize o : UInt32) (r : AuxDataHashBuilder × List Output)
    (h : run (init b) (σ₁ ++ .finalizePayload outSize :: (σ₂ ++ [.finalize o])) = some r) :
    ∃ r₁ P sig outs, run (init b) σ₁ = some r₁ ∧
      r₁.1.cVoteRegistrationData.payloadHash = cbor_writeToken .map 1 ++ P ∧
      r.2 = r₁.2 ++ some (cbor_writeToken .map 1 ++ P) :: (outs ++ [some r.1.auxDataHash]) ∧
      r.1.auxDataHash = cbor_writeToken .array 2 ++ cbor_writeToken .map 2 ++ P ++
        votingPurposeBytes σ₂ ++ signatureTail sig ++ cbor_writeToken .array 0 ∧
      r.1.cVoteRegistrationData.payloadHash =
        r₁.1.cVoteRegistrationData.payloadHash ++ votingPurposeBytes σ₂ := by
  obtain ⟨r₁, r₂, h₁, h₂, rfl⟩ := run_append_eq_some h
  obtain ⟨r₃, h₃, h₂⟩ := Option.bind_eq_some.mp h₂
  obtain ⟨r₄, h₄, rfl⟩ := Option.map_eq_some'.mp h₂
  simp only [step, cVoteRegistration_finalizePayload_eq, map_ite_eq_some] at h₃
  obtain ⟨⟨hs, -⟩, rfl⟩ := h₃
  obtain ⟨P, hP⟩ := framed_of_lockstep (by rcases hs with h | h <;> simp [h, InPayload])
    (lockstep_run (lockstep_init b) h₁)
  have hA : AfterPayload P r₁.1 := by rcases hs with h | h <;> simpa [AfterPayload, h] using hP
  obtain ⟨r₅, r₆, h₅, h₆, rfl⟩ := run_append_eq_some h₄
  have hA₅ := afterPayload_run hA h₅
  simp only [run_singleton, step, finalize_eq, Option.map_map] at h₆
  obtain ⟨⟨hs₅, -⟩, rfl⟩ := map_ite_eq_some.mp h₆
  simp only [AfterPayload, hs₅] at hA₅
  obtain ⟨sig, hA₅, hB₅⟩ := hA₅
  exact ⟨r₁, P, sig, r₅.2, h₁, hP.1, by simp [hP.1], by simpa using hB₅, by simpa [hP.1] using hA₅⟩

theorem finalizePayload_frames_payload_cip36 :
    ∃ r, run (init ⟨.finished, [], ⟨.CIP15, 3, [7]⟩⟩)
        ([.enter .CIP36, .enterPayload, .addVoteKey (List.replicate 32 1),
          .addStakingKey (List.replicate 32 2), .addPaymentAddress [0], .addNonce 1234] ++
          .finalizePayload 32 ::
          ([.addVotingPurpose 0, .addSignature (List.replicate 64 4), .addAuxiliaryScripts] ++
            [.finalize 32])) = some r ∧
      ∃ r₁ P sig outs, run (init ⟨.finished, [], ⟨.CIP15, 3, [7]⟩⟩)
          [.enter .CIP36, .enterPayload, .addVoteKey (List.replicate 32 1),
            .addStakingKey (List.replicate 32 2), .addPaymentAddress [0], .addNonce 1234] = some r₁ ∧
        r₁.1.cVoteRegistrationData.payloadHash = cbor_writeToken .map 1 ++ P ∧
        r.2 = r₁.2 ++ some (cbor_writeToken .map 1 ++ P) :: (outs ++ [some r.1.auxDataHash]) ∧
        r.1.auxDataHash = cbor_writeToken .array 2 ++ cbor_writeToken .map 2 ++ P ++
          votingPurposeBytes
            [.addVotingPurpose 0, .addSignature (List.replicate 64 4), .addAuxiliaryScripts] ++
          signatureTail sig ++ cbor_writeToken .array 0 ∧
        r.1.cVoteRegistrationData.payloadHash = r₁.1.cVoteRegistrationData.payloadHash ++
          votingPurposeBytes
            [.addVotingPurpose 0, .addSignature (List.replicate 64 4), .addAuxiliaryScripts] := by
  obtain ⟨r, hr⟩ := Option.isSome_iff_exists.mp (by decide : (run (init ⟨.finished, [], ⟨.CIP15, 3, [7]⟩⟩)
    ([.enter .CIP36, .enterPayload, .addVoteKey (List.replicate 32 1),
      .addStakingKey (List.replicate 32 2), .addPaymentAddress [0], .addNonce 1234] ++
      .finalizePayload 32 ::
      ([.addVotingPurpose 0, .addSignature (List.replicate 64 4), .addAuxiliaryScripts] ++
        [.finalize 32]))).isSome)
  exact ⟨r, hr, finalizePayload_frames_payload _ _ _ _ _ r hr⟩

/-- The digest of `finalizePayload` need not cover the embedded payload. With `addVotingPurpose` after
`finalizePayload` (both accepted in `NONCE`), the message `finalizePayload` writes is `map(1) P` for no
`P` that the outer context embeds between `map(2)` and the signature entry: there the voting-purpose
entry follows `P`. -/
theorem finalizePayload_misses_later_votingPurpose :
    ¬ ∀ (b : AuxDataHashBuilder) (σ₁ σ₂ : List Call) (outSize o : UInt32)
        (r : AuxDataHashBuilder × List Output),
      run (init b) (σ₁ ++ .finalizePayload outSize :: (σ₂ ++ [.finalize o])) = some r →
      ∃ r₁ P sig outs, run (init b) σ₁ = some r₁ ∧
        r.2 = r₁.2 ++ some (cbor_writeToken .map 1 ++ P) :: (outs ++ [some r.1.auxDataHash]) ∧
        r.1.auxDataHash = cbor_writeToken .array 2 ++ cbor_writeToken .map 2 ++ P ++
          signatureTail sig ++ cbor_writeToken .array 0 := by
  intro H
  obtain ⟨r, hr⟩ := Option.isSome_iff_exists.mp (by decide : (run (init ⟨.init, [], ⟨.CIP36, 0, []⟩⟩)
    ([.enter .CIP36, .enterPayload, .addVoteKey (List.replicate 32 0),
      .addStakingKey (List.replicate 32 0), .addPaymentAddress [0], .addNonce 0] ++
      .finalizePayload 32 ::
      ([.addVotingPurpose 0, .addSignature (List.replicate 64 0), .addAuxiliaryScripts] ++
        [.finalize 32]))).isSome)
  obtain ⟨r₁, P, sig, outs, h₁, hout, hhash⟩ := H _ _ _ _ _ r hr
  -- the six calls before `finalizePayload` write nothing
  have hlen : (run (init ⟨.init, [], ⟨.CIP36, 0, []⟩⟩)
      [.enter .CIP36, .enterPayload, .addVoteKey (List.replicate 32 0),
        .addStakingKey (List.replicate 32 0), .addPaymentAddress [0], .addNonce 0]).map
      (·.2.length) = some 6 := by decide
  -- after the payload the message of `finalizePayload` covers, the outer context holds the voting purpose
  have key : (run (init ⟨.init, [], ⟨.CIP36, 0, []⟩⟩)
      ([.enter .CIP36, .enterPayload, .addVoteKey (List.replicate 32 0),
        .addStakingKey (List.replicate 32 0), .addPaymentAddress [0], .addNonce 0] ++
        .finalizePayload 32 ::
        ([.addVotingPurpose 0, .addSignature (List.replicate 64 0), .addAuxiliaryScripts] ++
          [.finalize 32]))).map
      (fun r => (r.2[6]?.bind id).map fun m => (r.1.auxDataHash.drop (m.length + 1)).head?) =
      some (some (some 0x05)) := by decide
  rw [h₁, Option.map_some', Option.some.injEq] at hlen
  rw [hr, Option.map_some', Option.some.injEq, hout, List.getElem?_append_right (by omega), hlen] at key
  have hdrop : (r.1.auxDataHash.drop ((cbor_writeToken .map 1 ++ P).length + 1)) =
      signatureTail sig ++ cbor_writeToken .array 0 := by
    rw [hhash]
    simp [show cbor_writeToken .map 1 = [0xA1] by decide, show cbor_writeToken .array 2 = [0x82] by decide,
      show cbor_writeToken .map 2 = [0xA2] by decide]
  simp only [Nat.sub_self, List.getElem?_cons_zero, Option.some_bind, id_eq, Option.map_some', hdrop,
    head?_signatureTail] at key
  exact absurd key (by decide)

end AuxDataHash.TwoContexts
