import CodecRegistry.Varint
import Mathlib.Data.Nat.Bitwise
import Mathlib.Tactic.Ring

/-! Reading a number gives back what was written, whatever bytes follow. The machine words of a
reader are turned into numbers first: one step adds a group of seven bits at its place, as long as
the sum stays within the width. The induction is then on the number that is left to read. -/

namespace CodecRegistry.Varint

theorem toNat_group (byte : UInt8) : (byte &&& groupMask).toUInt64.toNat = byte.toNat % 128 := by
  rw [UInt8.toNat_toUInt64, UInt8.toNat_and]
  exact Nat.and_two_pow_sub_one_eq_mod byte.toNat 7

theorem continuation_eq_zero_iff (byte : UInt8) :
    byte &&& continuation = 0 ↔ byte.toNat < 128 := by
  have small := byte.toNat_lt
  have bit : (byte &&& continuation).toNat = 128 * (byte.toNat.testBit 7).toNat := by
    rw [UInt8.toNat_and, Nat.and_comm]
    exact Nat.two_pow_and byte.toNat 7
  rw [← UInt8.toNat_inj, bit, Nat.testBit_eq_decide_div_mod_eq]
  by_cases low : byte.toNat < 128
  · simp [low, Nat.div_eq_of_lt low]
  · have high : byte.toNat / 128 % 2 = 1 := by omega
    simp [low, high]

theorem Width.toNat_largest (width : Width) : width.largest.toNat = 2 ^ width.bits - 1 := by
  cases width <;> rfl

theorem Width.bits_le (width : Width) : width.bits ≤ 64 := by
  cases width <;> decide

theorem Width.toNat_ofNat_bits (width : Width) : (UInt64.ofNat width.bits).toNat = width.bits := by
  cases width <;> rfl

/-- The comparison before the shift asks whether the shifted group would reach above the width. -/
theorem exceeds_iff {width : Width} {shift : UInt64} (byte : UInt8)
    (room : shift.toNat < width.bits) :
    width.largest >>> shift < (byte &&& groupMask).toUInt64 ↔
      2 ^ width.bits ≤ byte.toNat % 128 * 2 ^ shift.toNat := by
  have wide := width.bits_le
  have positive := Nat.two_pow_pos width.bits
  rw [UInt64.lt_iff_toNat_lt, toNat_group, UInt64.toNat_shiftRight, width.toNat_largest,
    Nat.mod_eq_of_lt (by omega), Nat.shiftRight_eq_div_pow,
    Nat.div_lt_iff_lt_mul (Nat.two_pow_pos _)]
  omega

/-- A group lands on bits that are still clear, so putting it there adds. -/
theorem toNat_or_group {soFar : Partial} (byte : UInt8)
    (filled : soFar.value.toNat < 2 ^ soFar.shift.toNat) (room : soFar.shift.toNat < 64)
    (fits : byte.toNat % 128 * 2 ^ soFar.shift.toNat < 2 ^ 64) :
    (soFar.value ||| ((byte &&& groupMask).toUInt64 <<< soFar.shift)).toNat =
      soFar.value.toNat + byte.toNat % 128 * 2 ^ soFar.shift.toNat := by
  have shifted : ((byte &&& groupMask).toUInt64 <<< soFar.shift).toNat =
      2 ^ soFar.shift.toNat * (byte.toNat % 128) := by
    rw [UInt64.toNat_shiftLeft, toNat_group, Nat.mod_eq_of_lt room, Nat.shiftLeft_eq,
      Nat.mod_eq_of_lt fits, Nat.mul_comm]
  have disjoint := Nat.two_pow_add_eq_or_of_lt filled (byte.toNat % 128)
  rw [UInt64.toNat_or, shifted, Nat.or_comm, ← disjoint]
  ring

/-- A group that stays within the width is added at its place. -/
theorem step_fits {width : Width} {soFar : Partial} (byte : UInt8)
    (filled : soFar.value.toNat < 2 ^ soFar.shift.toNat) (room : soFar.shift.toNat < width.bits)
    (fits : byte.toNat % 128 * 2 ^ soFar.shift.toNat < 2 ^ width.bits) :
    ∃ value : UInt64,
      value.toNat = soFar.value.toNat + byte.toNat % 128 * 2 ^ soFar.shift.toNat ∧
      step width soFar byte =
        if byte.toNat < 128 then .finished value else .more ⟨value, soFar.shift + 7⟩ := by
  have wide := width.bits_le
  refine ⟨_, toNat_or_group byte filled (by omega) (lt_of_lt_of_le fits ?_), ?_⟩
  · exact Nat.pow_le_pow_right (by decide) wide
  · unfold step
    rw [if_neg]
    · simp only [continuation_eq_zero_iff]
    · rw [UInt64.le_iff_toNat_le, width.toNat_ofNat_bits, exceeds_iff byte room]
      omega

/-! ## Writing -/

theorem toNat_shiftRight_group (value : UInt64) : (value >>> 7).toNat = value.toNat / 128 := by
  rw [UInt64.toNat_shiftRight]
  exact Nat.shiftRight_eq_div_pow _ _

theorem encode_small {value : UInt64} (h : value.toNat < 128) : encode value = [value.toUInt8] := by
  rw [encode, dif_pos (UInt64.lt_iff_toNat_lt.2 h)]

theorem encode_large {value : UInt64} (h : 128 ≤ value.toNat) :
    encode value = UInt8.ofNat (value.toNat % 128 + 128) :: encode (value >>> 7) := by
  have marked : ∀ low : Fin 256, low.val ||| 128 = low.val % 128 + 128 := by decide +kernel
  have large : ¬ value < 128 := by
    rw [UInt64.lt_iff_toNat_lt]
    exact Nat.not_lt.2 h
  have byte : value.toUInt8 ||| continuation = UInt8.ofNat (value.toNat % 128 + 128) := by
    rw [← UInt8.toNat_inj, UInt8.toNat_or, UInt64.toNat_toUInt8, UInt8.toNat_ofNat']
    have low := marked ⟨value.toNat % 256, Nat.mod_lt _ (by decide)⟩
    simp only at low
    exact low.trans (by omega)
  rw [encode, dif_neg large, byte]

theorem toNat_next_place (shift : UInt64) (h : shift.toNat < 64) :
    (shift + 7).toNat = shift.toNat + 7 := by
  have seven : (7 : UInt64).toNat = 7 := rfl
  rw [UInt64.toNat_add, seven]
  exact Nat.mod_eq_of_lt (by omega)

/-- A number at a place is its lowest group there and the rest at the next place. -/
theorem mul_place (value place : Nat) :
    value * 2 ^ place = value % 128 * 2 ^ place + value / 128 * 2 ^ (place + 7) := by
  conv_lhs => rw [← Nat.mod_add_div value 128]
  ring

theorem group_mul_place_lt (value place : Nat) : value % 128 * 2 ^ place ≤ 127 * 2 ^ place :=
  Nat.mul_le_mul_right _ (by omega)

/-- Whatever the groups before add up to, reading a written number adds it at its place. -/
theorem decodeFrom_encode (width : Width) (value : UInt64) (soFar : Partial) (rest : Bytes)
    (filled : soFar.value.toNat < 2 ^ soFar.shift.toNat) (room : soFar.shift.toNat < width.bits)
    (fits : soFar.value.toNat + value.toNat * 2 ^ soFar.shift.toNat < 2 ^ width.bits) :
    ∃ whole : UInt64, whole.toNat = soFar.value.toNat + value.toNat * 2 ^ soFar.shift.toNat ∧
      decodeFrom width soFar (encode value ++ rest) = ⟨.ok whole, rest⟩ := by
  induction size : value.toNat using Nat.strongRecOn generalizing value soFar with
  | ind n ih =>
    subst size
    by_cases small : value.toNat < 128
    · have byte : value.toUInt8.toNat = value.toNat := by
        rw [UInt64.toNat_toUInt8]
        omega
      have group : value.toUInt8.toNat % 128 = value.toNat := by omega
      obtain ⟨whole, sum, stepped⟩ := step_fits value.toUInt8 filled room (by rw [group]; omega)
      rw [group] at sum
      rw [byte, if_pos small] at stepped
      exact ⟨whole, sum, by rw [encode_small small, List.singleton_append, decodeFrom, stepped]⟩
    · have byte : (UInt8.ofNat (value.toNat % 128 + 128)).toNat = value.toNat % 128 + 128 := by
        rw [UInt8.toNat_ofNat']
        omega
      have group : (value.toNat % 128 + 128) % 128 = value.toNat % 128 := by omega
      have place := mul_place value.toNat soFar.shift.toNat
      have low := group_mul_place_lt value.toNat soFar.shift.toNat
      have next : 2 ^ (soFar.shift.toNat + 7) = 2 ^ soFar.shift.toNat * 128 := pow_add _ _ 7
      have high : 2 ^ (soFar.shift.toNat + 7) ≤
          value.toNat / 128 * 2 ^ (soFar.shift.toNat + 7) :=
        Nat.le_mul_of_pos_left _ (Nat.div_pos (by omega) (by decide))
      -- something is written above this group, so its place is still within the width
      have above : soFar.shift.toNat + 7 < width.bits := by
        rw [← Nat.pow_lt_pow_iff_right (a := 2) (by decide)]
        omega
      have shifted := toNat_next_place soFar.shift (by have := width.bits_le; omega)
      obtain ⟨sum, added, stepped⟩ := step_fits (UInt8.ofNat (value.toNat % 128 + 128)) filled room
        (by rw [byte, group]; omega)
      rw [byte, group] at added
      rw [byte, if_neg (by omega)] at stepped
      have upper := toNat_shiftRight_group value
      obtain ⟨whole, total, read⟩ := ih (value.toNat / 128) (by omega) (value >>> 7)
        ⟨sum, soFar.shift + 7⟩ (by simp only [shifted]; omega) (by simpa only [shifted] using above)
        (by simp only [shifted, upper]; omega) upper
      simp only [shifted, added] at total
      refine ⟨whole, by omega, ?_⟩
      rw [encode_large (by omega), List.cons_append, decodeFrom, stepped]
      exact read

/-- Reading gives back a number that was written, if the width can hold it. -/
theorem decode_encode {width : Width} {value : UInt64} (fits : value.toNat < 2 ^ width.bits)
    (rest : Bytes) : decode width (encode value ++ rest) = ⟨.ok value, rest⟩ := by
  obtain ⟨whole, total, read⟩ := decodeFrom_encode width value ⟨0, 0⟩ rest (by decide)
    (by cases width <;> decide) (by simpa using fits)
  have same : whole = value := by
    rw [← UInt64.toNat_inj]
    simpa using total
  rw [decode, read, same]

end CodecRegistry.Varint
