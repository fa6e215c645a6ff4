import CodecRegistry.Scalar
import CodecRegistry.Proofs.Varint

/-! Every kind of primitive value reads back as it was written, whatever bytes follow. Only bytes
and texts carry a length, which must be one that 64 bits can hold. -/

namespace CodecRegistry

theorem Reading.take_append {count : Nat} {front : Bytes} (h : front.length = count)
    (rest : Bytes) : Reading.take count (front ++ rest) = ⟨.ok front, rest⟩ := by
  subst h
  rw [Reading.take, Bytes.split?_append]

theorem readFixed_bigEndian (width : Nat) {value : Nat} (h : value < 256 ^ width) (rest : Bytes) :
    readFixed width (Bytes.bigEndian width value ++ rest) = ⟨.ok value, rest⟩ := by
  have whole : Bytes.ofBigEndian (Bytes.bigEndian width value) = value := by
    rw [Bytes.ofBigEndian_bigEndian]
    exact Nat.mod_eq_of_lt h
  rw [readFixed, Reading.take_append (Bytes.length_bigEndian width value)]
  simp only [Reading.map, Except.map, whole]

/-- A count that 64 bits hold is read back as the number of items that was counted. -/
theorem toNat_count {α : Type} {items : List α} (h : items.length < 2 ^ 64) :
    (UInt64.ofNat items.length).toNat = items.length := by
  rw [UInt64.toNat_ofNat']
  exact Nat.mod_eq_of_lt h

theorem readSized_writeSized {data : Bytes} (h : data.length < 2 ^ 64) (rest : Bytes) :
    readSized (writeSized data ++ rest) = ⟨.ok data, rest⟩ := by
  have fits : (UInt64.ofNat data.length).toNat < 2 ^ Varint.Width.w64.bits := by
    rw [toNat_count h]
    exact h
  rw [readSized, writeSized, List.append_assoc, Varint.decode_encode fits]
  simp only [Reading.andThen, toNat_count h]
  exact Reading.take_append rfl rest

theorem Utf8.decode_encode (text : String) : Utf8.decode (Utf8.encode text) = .ok text := by
  have same : (Utf8.encode text).toByteArray = text.toByteArray := by
    apply ByteArray.ext
    rw [← Array.toList_inj, List.toList_data_toByteArray]
    rfl
  have valid : text.toByteArray.IsValidUTF8 := text.isValidUTF8
  rw [Utf8.decode, same, String.fromUTF8?, dif_pos valid]
  rfl

namespace ScalarKind

/-- Whether the length of a value can be written, as it can for all that a machine holds. -/
def Fits : (kind : ScalarKind) → kind.Carrier → Prop
  | bytes, value => value.length < 2 ^ 64
  | text, value => (Utf8.encode value).length < 2 ^ 64
  | _, _ => True

instance : (kind : ScalarKind) → (value : kind.Carrier) → Decidable (kind.Fits value)
  | bytes, value => inferInstanceAs (Decidable (List.length value < 2 ^ 64))
  | text, value => inferInstanceAs (Decidable ((Utf8.encode value).length < 2 ^ 64))
  | byte, _ | bool, _ | word16, _ | int32, _ | int64, _ | varint32, _ | varint64, _ =>
    .isTrue trivial

theorem decode_encode (kind : ScalarKind) {value : kind.Carrier} (fits : kind.Fits value)
    (rest : Bytes) : kind.decode (kind.encode value ++ rest) = ⟨.ok value, rest⟩ := by
  cases kind with
  | byte =>
    have one : Bytes.bigEndian 1 value.toNat = [value] := by simp [Bytes.bigEndian]
    have read := readFixed_bigEndian 1 value.toNat_lt rest
    rw [one] at read
    simp only [decode, encode, read, Reading.map, Except.map, UInt8.ofNat_toNat]
  | bool => cases value <;> rfl
  | word16 =>
    have read := readFixed_bigEndian 2 value.toNat_lt rest
    simp only [decode, encode, read, Reading.map, Except.map, UInt16.ofNat_toNat]
  | int32 =>
    have read := readFixed_bigEndian 4 value.toUInt32.toNat_lt rest
    simp only [decode, encode, read, Reading.map, Except.map, UInt32.ofNat_toNat]
    rfl
  | int64 =>
    have read := readFixed_bigEndian 8 value.toUInt64.toNat_lt rest
    simp only [decode, encode, read, Reading.map, Except.map, UInt64.ofNat_toNat]
    rfl
  | varint32 =>
    have small : value.toUInt64.toNat < 2 ^ Varint.Width.w32.bits := by
      rw [UInt32.toNat_toUInt64]
      exact value.toNat_lt
    simp only [decode, encode, Varint.decode_encode small rest, Reading.map, Except.map,
      UInt32.toUInt32_toUInt64]
  | varint64 => exact Varint.decode_encode value.toNat_lt rest
  | bytes => exact readSized_writeSized fits rest
  | text =>
    show readText (writeSized (Utf8.encode value) ++ rest) = _
    rw [readText, readSized_writeSized fits]
    simp only [Reading.andThen, Utf8.decode_encode]

end ScalarKind

end CodecRegistry
