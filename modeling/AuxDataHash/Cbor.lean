import Mathlib.Data.List.Basic

/-! # CBOR tokens and items

The builder never holds the encoded auxiliary data: it streams CBOR tokens into its hash contexts through
`cbor_writeToken`, which turns a major type and a value into the token's canonical bytes. cbor.c is not
in src/, so the encoder is modelled from the spec: the initial byte holds the major type and either the
value itself (below 24) or the width of the big-endian argument after it, the smallest of 1, 2, 4 and 8
bytes that holds the value.

`CborItem` is the value level: a tree of unsigned integers, byte strings, arrays and maps. Its encoding
`CborItem.encode` writes every array and map header with the number of items that follow it, so a stream
equal to `x.encode` is well framed by construction. Every encoding is a header token (`CborItem.type`,
`CborItem.argument`) followed by a body (`encode_eq_header`); `CborItem.Fits` says that every header
argument is a value of the `uint64_t` that `cbor_writeToken` takes. -/

namespace AuxDataHash.Cbor

/-- The CBOR major types the builder emits (the spec's Unsigned, ByteStringHeader, ArrayHeader and
MapHeader). -/
inductive CborType where
  | unsigned
  | bytes
  | array
  | map
  deriving DecidableEq, Repr

/-- The major type, stored in the top three bits of a token's initial byte. -/
def CborType.majorType : CborType → Nat
  | unsigned => 0
  | bytes => 2
  | array => 4
  | map => 5

/-- The `width` low bytes of `value`, most significant first. -/
def bigEndian (value : Nat) : Nat → List UInt8
  | 0 => []
  | width + 1 => bigEndian (value / 256) width ++ [UInt8.ofNat (value % 256)]

/-- Modelled from the spec: `cbor_writeToken`, the canonical token of a major type and a value. -/
def cbor_writeToken (type : CborType) (value : Nat) : List UInt8 :=
  let initial (info : Nat) : UInt8 := UInt8.ofNat (type.majorType * 32 + info)
  if value < 24 then [initial value]
  else if value < 0x100 then initial 24 :: bigEndian value 1
  else if value < 0x10000 then initial 25 :: bigEndian value 2
  else if value < 0x100000000 then initial 26 :: bigEndian value 4
  else initial 27 :: bigEndian value 8

theorem length_bigEndian (value width : Nat) : (bigEndian value width).length = width := by
  induction width generalizing value with
  | zero => rfl
  | succ width ih => simp [bigEndian, ih]

/-- A token is never empty: its initial byte is always written. -/
theorem cbor_writeToken_ne_nil (type : CborType) (value : Nat) : cbor_writeToken type value ≠ [] := by
  unfold cbor_writeToken
  split_ifs <;> simp

-- the registration label 61284 as a two-byte unsigned integer, the CIP-36 payload map header and the
-- header of a signature
example : cbor_writeToken .unsigned 61284 = [0x19, 0xEF, 0x64] := by decide
example : cbor_writeToken .map 5 = [0xA5] := by decide
example : cbor_writeToken .bytes 64 = [0x58, 0x40] := by decide

/-! ### Items -/

/-- A CBOR data item, as far as the auxiliary data uses them. -/
inductive CborItem where
  | unsigned (value : Nat)
  | bytes (data : List UInt8)
  | array (items : List CborItem)
  | map (entries : List (CborItem × CborItem))
  deriving Repr

mutual

/-- The canonical encoding of an item: each header carries the exact number of items or bytes after it. -/
def CborItem.encode : CborItem → List UInt8
  | .unsigned value => cbor_writeToken .unsigned value
  | .bytes data => cbor_writeToken .bytes data.length ++ data
  | .array items => cbor_writeToken .array items.length ++ encodeItems items
  | .map entries => cbor_writeToken .map entries.length ++ encodeEntries entries

/-- The items of an array, one after the other. -/
def encodeItems : List CborItem → List UInt8
  | [] => []
  | item :: items => item.encode ++ encodeItems items

/-- The entries of a map, each key followed by its value. -/
def encodeEntries : List (CborItem × CborItem) → List UInt8
  | [] => []
  | (key, value) :: entries => key.encode ++ value.encode ++ encodeEntries entries

end

@[simp] theorem encode_unsigned (value : Nat) :
    (CborItem.unsigned value).encode = cbor_writeToken .unsigned value := by
  simp [CborItem.encode]

@[simp] theorem encode_bytes (data : List UInt8) :
    (CborItem.bytes data).encode = cbor_writeToken .bytes data.length ++ data := by
  simp [CborItem.encode]

@[simp] theorem encode_array (items : List CborItem) :
    (CborItem.array items).encode = cbor_writeToken .array items.length ++ encodeItems items := by
  simp [CborItem.encode]

@[simp] theorem encode_map (entries : List (CborItem × CborItem)) :
    (CborItem.map entries).encode = cbor_writeToken .map entries.length ++ encodeEntries entries := by
  simp [CborItem.encode]

@[simp] theorem encodeItems_nil : encodeItems [] = [] := by simp [encodeItems]

@[simp] theorem encodeItems_cons (item : CborItem) (items : List CborItem) :
    encodeItems (item :: items) = item.encode ++ encodeItems items := by simp [encodeItems]

@[simp] theorem encodeEntries_nil : encodeEntries [] = [] := by simp [encodeEntries]

@[simp] theorem encodeEntries_cons (key value : CborItem) (entries : List (CborItem × CborItem)) :
    encodeEntries ((key, value) :: entries) = key.encode ++ value.encode ++ encodeEntries entries := by
  simp [encodeEntries]

theorem encodeEntries_append (entries entries' : List (CborItem × CborItem)) :
    encodeEntries (entries ++ entries') = encodeEntries entries ++ encodeEntries entries' := by
  induction entries with
  | nil => rfl
  | cons entry entries ih => obtain ⟨key, value⟩ := entry; simp [ih]

/-! ### Headers -/

mutual

/-- Every header argument of the item, and of the items in it, is a `uint64_t` value. -/
def CborItem.Fits : CborItem → Prop
  | .unsigned value => value < UInt64.size
  | .bytes data => data.length < UInt64.size
  | .array items => items.length < UInt64.size ∧ ItemsFit items
  | .map entries => entries.length < UInt64.size ∧ EntriesFit entries

/-- Every item of the list fits. -/
def ItemsFit : List CborItem → Prop
  | [] => True
  | item :: items => item.Fits ∧ ItemsFit items

/-- Every key and value of the list fits. -/
def EntriesFit : List (CborItem × CborItem) → Prop
  | [] => True
  | (key, value) :: entries => key.Fits ∧ value.Fits ∧ EntriesFit entries

end

/-- The major type of an item's header. -/
def CborItem.type : CborItem → CborType
  | .unsigned _ => .unsigned
  | .bytes _ => .bytes
  | .array _ => .array
  | .map _ => .map

/-- The argument of an item's header: the value, or how many bytes, items or entries follow. -/
def CborItem.argument : CborItem → Nat
  | .unsigned value => value
  | .bytes data => data.length
  | .array items => items.length
  | .map entries => entries.length

/-- What follows an item's header. -/
def CborItem.body : CborItem → List UInt8
  | .unsigned _ => []
  | .bytes data => data
  | .array items => encodeItems items
  | .map entries => encodeEntries entries

theorem encode_eq_header (item : CborItem) :
    item.encode = cbor_writeToken item.type item.argument ++ item.body := by
  cases item <;> simp [CborItem.type, CborItem.argument, CborItem.body]

theorem argument_lt_of_fits {item : CborItem} (h : item.Fits) : item.argument < UInt64.size := by
  cases item with
  | unsigned => exact h
  | bytes => exact h
  | array => exact h.1
  | map => exact h.1

end AuxDataHash.Cbor
