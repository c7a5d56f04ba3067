import AuxDataHash.Run

/-! # What the format changes

`enter` stores the format, and only `enterPayload` reads it, for the size of the payload map header:
`map(5)` for CIP-36, `map(4)` for CIP-15. Every other guard and every other token is the same for both
formats. So the same calls after `enter CIP15` and after `enter CIP36` run in step: both abort or both
are accepted, and then their streams and the messages they write differ in that one header byte only.

`FormatTwins b₁ b₂` relates the CIP-15 builder `b₁` to the CIP-36 builder `b₂`; `HeaderTwins` relates two
streams equal but for the header.

* `formatTwins_step`, `formatTwins_run`: each call, and so each call sequence, keeps the twins twins;
* `format_changes_only_payload_header`: from `init`, `enter CIP15 :: σ` and `enter CIP36 :: σ` both abort
  or are both accepted as twins, with outputs that differ at most in the header. -/

namespace AuxDataHash.FormatSwitch

open AuxDataHash.Cbor AuxDataHash.Builder AuxDataHash.Spec AuxDataHash.Run

/-! ### Twins -/

/-- `x₁` and `x₂` are equal but for the payload map header: `map(4)` in `x₁` where `x₂` has `map(5)`. -/
def HeaderTwins (x₁ x₂ : List UInt8) : Prop :=
  ∃ pre post, x₁ = pre ++ cbor_writeToken .map 4 ++ post ∧ x₂ = pre ++ cbor_writeToken .map 5 ++ post

theorem headerTwins_append {x₁ x₂ : List UInt8} (h : HeaderTwins x₁ x₂) (y : List UInt8) :
    HeaderTwins (x₁ ++ y) (x₂ ++ y) := by
  obtain ⟨pre, post, rfl, rfl⟩ := h
  exact ⟨pre, post ++ y, by simp, by simp⟩

/-- **The format twins**: the CIP-15 builder `b₁` and the CIP-36 builder `b₂` after the same calls since
`enter`. They are in the same state with the same countdown; before `enterPayload` their streams are
equal, after it equal but for the payload map header. -/
structure FormatTwins (b₁ b₂ : AuxDataHashBuilder) : Prop where
  state : b₁.state = b₂.state
  remainingDelegations :
    b₁.cVoteRegistrationData.remainingDelegations = b₂.cVoteRegistrationData.remainingDelegations
  format₁ : b₁.cVoteRegistrationData.format = .CIP15
  format₂ : b₂.cVoteRegistrationData.format = .CIP36
  streams :
    (b₁.state = .inCVoteRegistrationInit ∧ b₁.auxDataHash = b₂.auxDataHash ∧
      b₁.cVoteRegistrationData.payloadHash = b₂.cVoteRegistrationData.payloadHash) ∨
    (b₁.state ≠ .init ∧ b₁.state ≠ .inCVoteRegistrationInit ∧
      HeaderTwins b₁.auxDataHash b₂.auxDataHash ∧
      HeaderTwins b₁.cVoteRegistrationData.payloadHash b₂.cVoteRegistrationData.payloadHash)

/-- What the twins write in one call: nothing on both sides, or two messages equal but for the
header. -/
def OutputTwins : Output → Output → Prop
  | none, none => True
  | some m₁, some m₂ => HeaderTwins m₁ m₂
  | none, some _ | some _, none => False

theorem FormatTwins.state_ne_init {b₁ b₂ : AuxDataHashBuilder} (h : FormatTwins b₁ b₂) :
    b₁.state ≠ .init := by
  rcases h.streams with ⟨hs, -⟩ | ⟨hs, -⟩
  · simp [hs]
  · exact hs

theorem FormatTwins.headers {b₁ b₂ : AuxDataHashBuilder} (h : FormatTwins b₁ b₂)
    (hs : b₁.state ≠ .inCVoteRegistrationInit) :
    HeaderTwins b₁.auxDataHash b₂.auxDataHash ∧
      HeaderTwins b₁.cVoteRegistrationData.payloadHash b₂.cVoteRegistrationData.payloadHash := by
  rcases h.streams with ⟨hs', -⟩ | ⟨-, -, h'⟩
  exacts [absurd hs' hs, h']

/-- Twins in a state after the header, built field by field. -/
theorem formatTwins_mk {s : AuxDataHashBuilderState} (hs₀ : s ≠ .init)
    (hs₁ : s ≠ .inCVoteRegistrationInit) {f₁ f₂ : CVoteRegistrationFormat} (hf₁ : f₁ = .CIP15)
    (hf₂ : f₂ = .CIP36) {d₁ d₂ : UInt32} (hd : d₁ = d₂) {a₁ a₂ p₁ p₂ : List UInt8}
    (ha : HeaderTwins a₁ a₂) (hp : HeaderTwins p₁ p₂) :
    FormatTwins ⟨s, a₁, ⟨f₁, d₁, p₁⟩⟩ ⟨s, a₂, ⟨f₂, d₂, p₂⟩⟩ :=
  ⟨rfl, hd, hf₁, hf₂, .inr ⟨hs₀, hs₁, ha, hp⟩⟩

/-! ### Steps and runs -/

/-- **Each call keeps the twins twins**: both abort, or both are accepted, write on the same side and
stay twins. Only `enterPayload` reads the format; every other call adds the same bytes on both sides. -/
theorem formatTwins_step {b₁ b₂ : AuxDataHashBuilder} (h : FormatTwins b₁ b₂) (c : Call) :
    Option.Rel (fun r₁ r₂ => FormatTwins r₁.1 r₂.1 ∧ OutputTwins r₁.2 r₂.2) (step b₁ c) (step b₂ c) := by
  have hstate := h.state
  have hcount := h.remainingDelegations
  cases c <;> simp only [step, cVoteRegistration_enter_eq, cVoteRegistration_enterPayload_eq,
    cVoteRegistration_addVoteKey_eq, cVoteRegistration_enterDelegations_eq,
    cVoteRegistration_addDelegation_eq, cVoteRegistration_addStakingKey_eq,
    cVoteRegistration_addPaymentAddress_eq, cVoteRegistration_addNonce_eq,
    cVoteRegistration_addVotingPurpose_eq, cVoteRegistration_finalizePayload_eq,
    cVoteRegistration_addSignature_eq, cVoteRegistration_addAuxiliaryScripts_eq, finalize_eq,
    ← hstate, ← hcount]
  case enter => rw [if_neg h.state_ne_init, if_neg h.state_ne_init]; exact .none
  case enterPayload =>
    rw [h.format₁, h.format₂, if_neg (show CVoteRegistrationFormat.CIP15 ≠ .CIP36 by decide), if_pos rfl]
    split_ifs with hg
    · obtain ⟨-, ha, hp⟩ := h.streams.resolve_right fun h' => h'.2.1 hg
      refine .some ⟨formatTwins_mk (by simp) (by simp) h.format₁ h.format₂ hcount ?_ ?_, trivial⟩
      · exact ⟨b₁.auxDataHash ++ cbor_writeToken .unsigned METADATA_KEY_CVOTE_REGISTRATION_PAYLOAD, [],
          by simp, by simp [ha]⟩
      · exact ⟨b₁.cVoteRegistrationData.payloadHash ++
          cbor_writeToken .unsigned METADATA_KEY_CVOTE_REGISTRATION_PAYLOAD, [], by simp, by simp [hp]⟩
    · exact .none
  case addVoteKey | addPaymentAddress | addNonce | addVotingPurpose =>
    split_ifs with hg
    · obtain ⟨ha, hp⟩ := h.headers (by simp [hg])
      exact .some ⟨formatTwins_mk (by simp) (by simp) h.format₁ h.format₂ hcount
        (headerTwins_append ha _) (headerTwins_append hp _), trivial⟩
    · exact .none
  case enterDelegations =>
    split_ifs with hg
    · obtain ⟨ha, hp⟩ := h.headers (by simp [hg])
      exact .some ⟨formatTwins_mk (by simp) (by simp) h.format₁ h.format₂ rfl
        (headerTwins_append ha _) (headerTwins_append hp _), trivial⟩
    · exact .none
  case addDelegation =>
    split_ifs with hg
    · obtain ⟨ha, hp⟩ := h.headers (by simp [hg])
      exact .some ⟨formatTwins_mk (by simp [hg]) (by simp [hg]) h.format₁ h.format₂ rfl
        (headerTwins_append ha _) (headerTwins_append hp _), trivial⟩
    · exact .none
  case addStakingKey =>
    split_ifs with hg
    · obtain ⟨ha, hp⟩ := h.headers (by rcases hg.1 with hs | ⟨hs, -⟩ <;> simp [hs])
      exact .some ⟨formatTwins_mk (by simp) (by simp) h.format₁ h.format₂ hcount
        (headerTwins_append ha _) (headerTwins_append hp _), trivial⟩
    · exact .none
  case finalizePayload =>
    split_ifs with hg
    · exact .some ⟨h, (h.headers (by rcases hg.1 with hs | hs <;> simp [hs])).2⟩
    · exact .none
  case addSignature =>
    split_ifs with hg
    · obtain ⟨ha, hp⟩ := h.headers (by rcases hg.1 with hs | hs <;> simp [hs])
      exact .some ⟨formatTwins_mk (by simp) (by simp) h.format₁ h.format₂ hcount
        (headerTwins_append ha _) hp, trivial⟩
    · exact .none
  case addAuxiliaryScripts =>
    split_ifs with hg
    · obtain ⟨ha, hp⟩ := h.headers (by simp [hg])
      exact .some ⟨formatTwins_mk (by simp) (by simp) h.format₁ h.format₂ hcount
        (headerTwins_append ha _) hp, trivial⟩
    · exact .none
  case finalize =>
    split_ifs with hg
    · obtain ⟨ha, hp⟩ := h.headers (by simp [hg.1])
      exact .some ⟨formatTwins_mk (by simp) (by simp) h.format₁ h.format₂ hcount ha hp, ha⟩
    · exact .none

theorem optionRel_bind {α β γ δ : Type} {R : α → β → Prop} {S : γ → δ → Prop} {x : Option α}
    {y : Option β} {f : α → Option γ} {g : β → Option δ} (h : Option.Rel R x y)
    (hfg : ∀ a b, R a b → Option.Rel S (f a) (g b)) : Option.Rel S (x.bind f) (y.bind g) := by
  cases h with
  | none => exact .none
  | some hab => exact hfg _ _ hab

theorem optionRel_map {α β γ δ : Type} {R : α → β → Prop} {S : γ → δ → Prop} {x : Option α}
    {y : Option β} {f : α → γ} {g : β → δ} (h : Option.Rel R x y)
    (hfg : ∀ a b, R a b → S (f a) (g b)) : Option.Rel S (x.map f) (y.map g) := by
  cases h with
  | none => exact .none
  | some hab => exact .some (hfg _ _ hab)

/-- **Each call sequence keeps the twins twins**, call by call. -/
theorem formatTwins_run {b₁ b₂ : AuxDataHashBuilder} (h : FormatTwins b₁ b₂) (σ : List Call) :
    Option.Rel (fun r₁ r₂ => FormatTwins r₁.1 r₂.1 ∧ List.Forall₂ OutputTwins r₁.2 r₂.2)
      (run b₁ σ) (run b₂ σ) := by
  induction σ generalizing b₁ b₂ with
  | nil => exact .some ⟨h, .nil⟩
  | cons c σ ih =>
    rw [run_cons, run_cons]
    exact optionRel_bind (formatTwins_step h c) fun _ _ ⟨ht, ho⟩ =>
      optionRel_map (ih ht) fun _ _ ⟨hs, hos⟩ => ⟨hs, .cons ho hos⟩

/-- **The format changes one byte of each stream, and nothing else.** From `init`, the call sequences
`enter CIP15 :: σ` and `enter CIP36 :: σ` both abort or are both accepted. When accepted, the builders are
in the same state with the same countdown, each call writes on both sides or on neither, and each
stream and each written message is the same on both sides but for the payload map header, `map(4)`
against `map(5)`, once `enterPayload` has written it. -/
theorem format_changes_only_payload_header (b : AuxDataHashBuilder) (σ : List Call) :
    Option.Rel (fun r₁ r₂ => FormatTwins r₁.1 r₂.1 ∧ List.Forall₂ OutputTwins r₁.2 r₂.2)
      (run (init b) (.enter .CIP15 :: σ)) (run (init b) (.enter .CIP36 :: σ)) := by
  rw [run_cons, run_cons]
  refine optionRel_bind (R := fun r₁ r₂ => FormatTwins r₁.1 r₂.1 ∧ OutputTwins r₁.2 r₂.2) ?_
    fun _ _ ⟨ht, ho⟩ => optionRel_map (formatTwins_run ht σ) fun _ _ ⟨hs, hos⟩ => ⟨hs, .cons ho hos⟩
  simp only [step, cVoteRegistration_enter_eq, init_eq, if_pos, Option.map_some']
  exact .some ⟨⟨rfl, rfl, rfl, rfl, .inl ⟨rfl, rfl, rfl⟩⟩, trivial⟩

end AuxDataHash.FormatSwitch
