import AuxDataHash.Cbor
import Mathlib.Algebra.Group.Nat.Basic

/-! # Reading the token stream back

A digest binds what the builder absorbed only if the absorbed bytes can be read back in one way. This
module is the reading side of the CBOR model: `readToken` reads the initial byte of a token and the
big-endian argument after it, and reads back every token `cbor_writeToken` writes for a value of the
`uint64_t` it takes. Over items, `CborItem.Fits` says that every header argument is such a value.

* `readToken_cbor_writeToken`: reading a token back gives its major type, its value and what follows;
* `cbor_writeToken_append_inj`: two tokens at the front of one stream are the same token;
* `encode_append_inj`: two fitting items at the front of one stream are the same item, and so are two
  equally long lists of items or of entries;
* `encode_prefix_inj`: the encoding is a prefix code on fitting items. -/

namespace AuxDataHash.Decoding

open AuxDataHash.Cbor

/-! ### The big-endian argument -/

/-- The number whose big-endian bytes are `bytes`. -/
def ofBigEndian (bytes : List UInt8) : Nat :=
  bytes.foldl (fun acc byte => acc * 256 + byte.toNat) 0

theorem ofBigEndian_append_singleton (bytes : List UInt8) (byte : UInt8) :
    ofBigEndian (bytes ++ [byte]) = ofBigEndian bytes * 256 + byte.toNat := by
  simp [ofBigEndian]

/-- Reading the `width` bytes of `value` back gives `value` below `256 ^ width`. -/
theorem ofBigEndian_bigEndian (value width : Nat) :
    ofBigEndian (bigEndian value width) = value % 256 ^ width := by
  induction width generalizing value with
  | zero => simp [bigEndian, ofBigEndian, Nat.mod_one]
  | succ width ih =>
    rw [bigEndian, ofBigEndian_append_singleton, ih,
      UInt8.toNat_ofNat_of_lt (n := value % 256) (Nat.mod_lt value (by decide)), Nat.pow_succ',
      Nat.mod_mul]
    omega

/-! ### Tokens -/

/-- The number of argument bytes after an initial byte whose low five bits `info` are 24 to 27. -/
def argumentWidth (info : Nat) : Nat :=
  if info = 24 then 1 else if info = 25 then 2 else if info = 26 then 4 else 8

/-- **Reads one token** at the front of `bytes`: its major type, its value and the bytes after it. Low
bits 28 to 31 (reserved, or an indefinite length) are rejected. -/
def readToken : List UInt8 → Option (Nat × Nat × List UInt8)
  | [] => none
  | initial :: rest =>
    let info := initial.toNat % 32
    if info < 24 then some (initial.toNat / 32, info, rest)
    else if info < 28 ∧ argumentWidth info ≤ rest.length then
      some (initial.toNat / 32, ofBigEndian (rest.take (argumentWidth info)),
        rest.drop (argumentWidth info))
    else none

example : readToken [0x19, 0xEF, 0x64, 0xA5] = some (0, 61284, [0xA5]) := by decide

theorem majorType_le (type : CborType) : type.majorType ≤ 5 := by
  cases type <;> decide

theorem majorType_inj {type type' : CborType} (h : type.majorType = type'.majorType) :
    type = type' := by
  revert h
  cases type <;> cases type' <;> decide

/-- The initial byte holds the major type above the low five bits `info`. -/
theorem toNat_initial (type : CborType) {info : Nat} (h : info < 32) :
    (UInt8.ofNat (type.majorType * 32 + info)).toNat = type.majorType * 32 + info :=
  UInt8.toNat_ofNat_of_lt (show _ < 256 by have := majorType_le type; omega)

theorem readToken_initial (type : CborType) {info : Nat} (h : info < 24) (rest : List UInt8) :
    readToken (UInt8.ofNat (type.majorType * 32 + info) :: rest) = some (type.majorType, info, rest) := by
  have hi : (type.majorType * 32 + info) % 32 = info := by omega
  have hm : (type.majorType * 32 + info) / 32 = type.majorType := by omega
  simp [readToken, toNat_initial type (by omega : info < 32), hi, hm, h]

theorem readToken_initial_bigEndian (type : CborType) {info width value : Nat}
    (hinfo : 24 ≤ info ∧ info < 28) (hw : argumentWidth info = width) (hv : value < 256 ^ width)
    (rest : List UInt8) :
    readToken (UInt8.ofNat (type.majorType * 32 + info) :: (bigEndian value width ++ rest)) =
      some (type.majorType, value, rest) := by
  have hi : (type.majorType * 32 + info) % 32 = info := by omega
  have hm : (type.majorType * 32 + info) / 32 = type.majorType := by omega
  have hlen := length_bigEndian value width
  simp only [readToken, toNat_initial type (by omega : info < 32), hi, hm, hw]
  rw [if_neg (by omega), if_pos ⟨hinfo.2, by simp [hlen]⟩, List.take_left' hlen, List.drop_left' hlen,
    ofBigEndian_bigEndian, Nat.mod_eq_of_lt hv]

/-- **Every token is read back**: the major type, the value and the rest of the stream, for a value of
the `uint64_t` that `cbor_writeToken` takes. -/
theorem readToken_cbor_writeToken (type : CborType) {value : Nat} (hv : value < UInt64.size)
    (rest : List UInt8) :
    readToken (cbor_writeToken type value ++ rest) = some (type.majorType, value, rest) := by
  have hv : value < 0x10000000000000000 := hv
  unfold cbor_writeToken
  split_ifs with h₀ h₁ h₂ h₃
  · exact readToken_initial type h₀ rest
  · exact readToken_initial_bigEndian type (by omega) rfl (by simpa using h₁) rest
  · exact readToken_initial_bigEndian type (by omega) rfl (by simpa using h₂) rest
  · exact readToken_initial_bigEndian type (by omega) rfl (by simpa using h₃) rest
  · exact readToken_initial_bigEndian type (by omega) rfl (by simpa using hv) rest

/-- Two tokens at the front of one stream are the same token, followed by the same bytes. -/
theorem cbor_writeToken_append_inj {type type' : CborType} {value value' : Nat}
    {rest rest' : List UInt8} (hv : value < UInt64.size) (hv' : value' < UInt64.size)
    (h : cbor_writeToken type value ++ rest = cbor_writeToken type' value' ++ rest') :
    type = type' ∧ value = value' ∧ rest = rest' := by
  have hread := (readToken_cbor_writeToken type hv rest).symm.trans
    (h ▸ readToken_cbor_writeToken type' hv' rest')
  simp only [Option.some.injEq, Prod.mk.injEq] at hread
  exact ⟨majorType_inj hread.1, hread.2⟩

/-! ### Items -/

/-- Two fitting items at the front of one stream have the same header, followed by the same bytes. -/
theorem header_append_inj {item item' : CborItem} {rest rest' : List UInt8} (hf : item.Fits)
    (hf' : item'.Fits) (h : item.encode ++ rest = item'.encode ++ rest') :
    item.type = item'.type ∧ item.argument = item'.argument ∧ item.body ++ rest = item'.body ++ rest' := by
  rw [encode_eq_header, encode_eq_header, List.append_assoc, List.append_assoc] at h
  exact cbor_writeToken_append_inj (argument_lt_of_fits hf) (argument_lt_of_fits hf') h

mutual

/-- **The encoding is prefix-free**: two fitting items at the front of one stream are the same item,
followed by the same bytes. -/
theorem encode_append_inj : ∀ {item item' : CborItem} {rest rest' : List UInt8}, item.Fits →
    item'.Fits → item.encode ++ rest = item'.encode ++ rest' → item = item' ∧ rest = rest'
  | item, item', _, _, hf, hf', h => by
    obtain ⟨htype, harg, hbody⟩ := header_append_inj hf hf' h
    cases item <;> cases item' <;> cases htype
    case unsigned.unsigned.refl => exact ⟨congrArg _ harg, hbody⟩
    case bytes.bytes.refl =>
      obtain ⟨rfl, rfl⟩ := List.append_inj hbody harg
      exact ⟨rfl, rfl⟩
    case array.array.refl =>
      obtain ⟨rfl, rfl⟩ := encodeItems_append_inj hf.2 hf'.2 harg hbody
      exact ⟨rfl, rfl⟩
    case map.map.refl =>
      obtain ⟨rfl, rfl⟩ := encodeEntries_append_inj hf.2 hf'.2 harg hbody
      exact ⟨rfl, rfl⟩

/-- Two lists of fitting items, equally long, at the front of one stream are the same list. -/
theorem encodeItems_append_inj : ∀ {items items' : List CborItem} {rest rest' : List UInt8},
    ItemsFit items → ItemsFit items' → items.length = items'.length →
    encodeItems items ++ rest = encodeItems items' ++ rest' → items = items' ∧ rest = rest'
  | [], [], _, _, _, _, _, h => ⟨rfl, by simpa using h⟩
  | item :: items, item' :: items', _, _, hf, hf', hlen, h => by
    rw [encodeItems_cons, encodeItems_cons, List.append_assoc, List.append_assoc] at h
    obtain ⟨rfl, hrest⟩ := encode_append_inj hf.1 hf'.1 h
    obtain ⟨rfl, rfl⟩ := encodeItems_append_inj hf.2 hf'.2 (Nat.succ.inj hlen) hrest
    exact ⟨rfl, rfl⟩
  | [], _ :: _, _, _, _, _, hlen, _ | _ :: _, [], _, _, _, _, hlen, _ => absurd hlen (by simp)

/-- Two lists of fitting entries, equally long, at the front of one stream are the same list. -/
theorem encodeEntries_append_inj : ∀ {entries entries' : List (CborItem × CborItem)}
    {rest rest' : List UInt8}, EntriesFit entries → EntriesFit entries' →
    entries.length = entries'.length →
    encodeEntries entries ++ rest = encodeEntries entries' ++ rest' → entries = entries' ∧ rest = rest'
  | [], [], _, _, _, _, _, h => ⟨rfl, by simpa using h⟩
  | (key, value) :: entries, (key', value') :: entries', _, _, hf, hf', hlen, h => by
    rw [encodeEntries_cons, encodeEntries_cons, List.append_assoc, List.append_assoc,
      List.append_assoc, List.append_assoc] at h
    obtain ⟨rfl, hvalue⟩ := encode_append_inj hf.1 hf'.1 h
    obtain ⟨rfl, hrest⟩ := encode_append_inj hf.2.1 hf'.2.1 hvalue
    obtain ⟨rfl, rfl⟩ := encodeEntries_append_inj hf.2.2 hf'.2.2 (Nat.succ.inj hlen) hrest
    exact ⟨rfl, rfl⟩
  | [], _ :: _, _, _, _, _, hlen, _ | _ :: _, [], _, _, _, _, hlen, _ => absurd hlen (by simp)

end

/-- **The encoding is a prefix code**: the encoding of a fitting item is a prefix of that of another
only if the two items are the same. -/
theorem encode_prefix_inj {item item' : CborItem} (hf : item.Fits) (hf' : item'.Fits)
    (h : item.encode <+: item'.encode) : item = item' := by
  obtain ⟨rest, hrest⟩ := h
  exact (encode_append_inj hf hf' (hrest.trans (List.append_nil _).symm)).1

/-- The signature map `{1: h'0707'}`. -/
def signatureMapItem : CborItem := .map [(.unsigned 1, .bytes [7, 7])]

theorem encode_prefix_inj_signatureMap :
    signatureMapItem.Fits ∧ signatureMapItem.encode <+: signatureMapItem.encode ∧
      signatureMapItem = signatureMapItem :=
  have hf : signatureMapItem.Fits := by
    simp [signatureMapItem, CborItem.Fits, ItemsFit, EntriesFit, UInt64.size]
  ⟨hf, List.prefix_refl _, encode_prefix_inj hf hf (List.prefix_refl _)⟩

end AuxDataHash.Decoding
