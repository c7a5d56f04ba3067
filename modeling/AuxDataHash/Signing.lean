import AuxDataHash.Builder

/-! # Signing a hash

`messageSigning.c` signs with an Ed25519 key: `signRawMessage` signs a message with a given key into a
64-byte output buffer, and `getTxWitness` derives the key of a BIP-44 path and signs a transaction hash
with it. The SDK calls they make are outside src/ and are parameters here: `cx_eddsa_sign` is the bytes
the SDK writes to the 64-byte signature buffer (`signatureSize` is their number), and `derivePrivateKey`
the key of a path, or `none` where derivation throws. An exception, of an `ASSERT` or of the SDK, is
`none`, as in `AuxDataHash.Builder`.

* `signRawMessage_eq_some`, `getTxWitness_eq_some`: what an accepted call writes, and when it is
  accepted. -/

namespace AuxDataHash.Signing

open AuxDataHash.Builder

/-- Modelled from the spec: the length of a transaction hash, a 32-byte digest. -/
def TX_HASH_LENGTH : Nat := 32

section

variable {PrivateKey Path : Type} (cx_eddsa_sign : PrivateKey → List UInt8 → List UInt8)
  (derivePrivateKey : Path → Option PrivateKey)

/-- `signRawMessage`: the signature of `messageBuffer`, for an output buffer of `outSize` bytes. The
IO heartbeats around the SDK call change no data. -/
def signRawMessage (privateKey : PrivateKey) (messageBuffer : List UInt8) (outSize : Nat) :
    Option (List UInt8) := do
  ASSERT (messageBuffer.length < BUFFER_SIZE_PARANOIA)
  ASSERT (outSize = 64)
  let signature := cx_eddsa_sign privateKey messageBuffer
  ASSERT (signature.length = 64)
  pure signature

/-- `getTxWitness`: the signature of `txHashBuffer` by the key of `pathSpec`. The chain code is derived
and wiped but never read, and the wiping in `FINALLY` is not observable after the call. -/
def getTxWitness (pathSpec : Path) (txHashBuffer : List UInt8) (outSize : Nat) :
    Option (List UInt8) := do
  let privateKey ← derivePrivateKey pathSpec
  ASSERT (txHashBuffer.length = TX_HASH_LENGTH)
  signRawMessage cx_eddsa_sign privateKey txHashBuffer outSize

theorem signRawMessage_eq_some {privateKey : PrivateKey} {messageBuffer : List UInt8}
    {outSize : Nat} {signature : List UInt8} :
    signRawMessage cx_eddsa_sign privateKey messageBuffer outSize = some signature ↔
      messageBuffer.length < BUFFER_SIZE_PARANOIA ∧ outSize = 64 ∧
        signature = cx_eddsa_sign privateKey messageBuffer ∧ signature.length = 64 := by
  simp only [signRawMessage, ASSERT_bind]
  split_ifs <;> simp_all [eq_comm]

theorem getTxWitness_eq_some {pathSpec : Path} {txHashBuffer : List UInt8} {outSize : Nat}
    {signature : List UInt8} :
    getTxWitness cx_eddsa_sign derivePrivateKey pathSpec txHashBuffer outSize = some signature ↔
      ∃ privateKey, derivePrivateKey pathSpec = some privateKey ∧
        txHashBuffer.length = TX_HASH_LENGTH ∧ outSize = 64 ∧
        signature = cx_eddsa_sign privateKey txHashBuffer ∧ signature.length = 64 := by
  simp only [getTxWitness, Option.bind_eq_bind, Option.bind_eq_some, ASSERT_bind]
  constructor
  · rintro ⟨privateKey, hkey, h⟩
    split_ifs at h with hlen
    obtain ⟨-, ho, rfl, hs⟩ := (signRawMessage_eq_some cx_eddsa_sign).mp h
    exact ⟨privateKey, hkey, hlen, ho, rfl, hs⟩
  · rintro ⟨privateKey, hkey, hlen, ho, rfl, hs⟩
    refine ⟨privateKey, hkey, ?_⟩
    rw [if_pos hlen, signRawMessage_eq_some]
    exact ⟨by simp [hlen, TX_HASH_LENGTH, BUFFER_SIZE_PARANOIA], ho, rfl, hs⟩

end

end AuxDataHash.Signing
