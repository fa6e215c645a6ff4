/-! The wire carries octets. They are kept as a list, so that what a read leaves behind is simply
the tail of its input. This module also holds the big-endian form of fixed-width numbers. -/

namespace CodecRegistry

abbrev Bytes := List UInt8

namespace Bytes

/-- The first `count` octets and what follows them, unless there are fewer. -/
def split? (count : Nat) (bytes : Bytes) : Option (Bytes × Bytes) :=
  let front := bytes.take count
  if front.length = count then some (front, bytes.drop count) else none

theorem split?_append (front rest : Bytes) :
    split? front.length (front ++ rest) = some (front, rest) := by
  simp [split?]

theorem split?_eq_none_iff {count : Nat} {bytes : Bytes} :
    split? count bytes = none ↔ bytes.length < count := by
  simp only [split?, List.length_take]
  split <;> simp <;> omega

theorem eq_append_of_split? {count : Nat} {bytes front rest : Bytes}
    (h : split? count bytes = some (front, rest)) :
    bytes = front ++ rest ∧ front.length = count := by
  simp only [split?] at h
  split at h
  · obtain ⟨rfl, rfl⟩ := by simpa using h
    exact ⟨(List.take_append_drop count bytes).symm, by assumption⟩
  · simp at h

/-- The `width` low octets of a number, the most significant one first. -/
def bigEndian : Nat → Nat → Bytes
  | 0, _ => []
  | width + 1, value => bigEndian width (value / 256) ++ [UInt8.ofNat value]

/-- The number that octets denote when the most significant one comes first. -/
def ofBigEndian (bytes : Bytes) : Nat :=
  bytes.foldl (fun value byte => value * 256 + byte.toNat) 0

theorem length_bigEndian (width value : Nat) : (bigEndian width value).length = width := by
  induction width generalizing value with
  | zero => rfl
  | succ width ih => simp [bigEndian, ih]

theorem ofBigEndian_bigEndian (width value : Nat) :
    ofBigEndian (bigEndian width value) = value % Nat.pow 256 width := by
  induction width generalizing value with
  | zero => simp [bigEndian, ofBigEndian, Nat.mod_one]
  | succ width ih =>
    have step : ofBigEndian (bigEndian (width + 1) value) =
        ofBigEndian (bigEndian width (value / 256)) * 256 + value % 256 := by
      simp [bigEndian, ofBigEndian, List.foldl_append, UInt8.toNat_ofNat']
    have power : Nat.pow 256 (width + 1) = 256 * Nat.pow 256 width :=
      Nat.mul_comm (Nat.pow 256 width) 256
    rw [step, ih, power, Nat.mod_mul]
    omega

end Bytes

end CodecRegistry
