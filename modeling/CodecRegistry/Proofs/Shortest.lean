import CodecRegistry.Proofs.Scalar

/-! Nothing shorter than what is written reads as the same value. A number read from so many groups
of seven bits has no more bits than they hold, and its shortest form takes one group less only when
the highest one is clear; what carries a length is as long as that says. -/

namespace CodecRegistry

namespace Varint

/-- A step that does not overflow puts its group on clear bits below the width. -/
theorem fits_of_step {width : Width} {soFar : Partial} {byte : UInt8}
    (inside : step width soFar byte ≠ .overflow) :
    soFar.shift.toNat < width.bits ∧
      byte.toNat % 128 * 2 ^ soFar.shift.toNat < 2 ^ width.bits := by
  unfold step at inside
  dsimp only at inside
  split at inside
  · exact absurd rfl inside
  · rename_i stays
    obtain ⟨below, within⟩ := not_or.1 stays
    rw [UInt64.le_iff_toNat_le, width.toNat_ofNat_bits, not_le] at below
    rw [exceeds_iff byte below, not_le] at within
    exact ⟨below, within⟩

/-- The groups read so far say how large the number can be. -/
theorem decodeFrom_lt {width : Width} {soFar : Partial} {input rest : Bytes} {value : UInt64}
    (filled : soFar.value.toNat < 2 ^ soFar.shift.toNat)
    (read : decodeFrom width soFar input = ⟨.ok value, rest⟩) :
    ∃ more, input.length = more + 1 + rest.length ∧
      value.toNat < 2 ^ (soFar.shift.toNat + 7 * (more + 1)) := by
  induction input generalizing soFar with
  | nil => cases read
  | cons byte later ih =>
    rw [decodeFrom] at read
    by_cases overflows : step width soFar byte = .overflow
    · rw [overflows] at read
      cases read
    · -- The new group stands above the bits so far, so the sum stays below the next place.
      obtain ⟨room, fits⟩ := fits_of_step overflows
      obtain ⟨sum, added, stepped⟩ := step_fits byte filled room fits
      have grown : sum.toNat < 2 ^ (soFar.shift.toNat + 7) := by
        have group := group_mul_place_lt byte.toNat soFar.shift.toNat
        have next : 2 ^ (soFar.shift.toNat + 7) = 2 ^ soFar.shift.toNat * 128 := pow_add _ _ 7
        omega
      rw [stepped] at read
      split at read
      · rename_i soFar' more
        split at more
        · cases more
        · cases more
          have shifted := toNat_next_place soFar.shift (room.trans_le width.bits_le)
          obtain ⟨more, length, small⟩ := ih (by rw [shifted]; exact grown) read
          refine ⟨more + 1, by rw [List.length_cons, length]; omega, ?_⟩
          rw [shifted] at small
          rw [show soFar.shift.toNat + 7 * (more + 1 + 1) =
            soFar.shift.toNat + 7 + 7 * (more + 1) by omega]
          exact small
      · rename_i whole finished
        split at finished
        · cases finished
          cases read
          exact ⟨0, by rw [List.length_cons]; omega, grown⟩
        · cases finished
      · rename_i overflow
        split at overflow <;> cases overflow

/-- The shortest form has no more groups than the number needs. -/
theorem length_encode_le {value : UInt64} {more : Nat}
    (small : value.toNat < 2 ^ (7 * (more + 1))) : (encode value).length ≤ more + 1 := by
  induction more generalizing value with
  | zero =>
    rw [encode_small small]
    rfl
  | succ more ih =>
    by_cases one : value.toNat < 128
    · rw [encode_small one]
      simp
    · rw [encode_large (by omega), List.length_cons]
      have shifted : (value >>> 7).toNat < 2 ^ (7 * (more + 1)) := by
        have next : 2 ^ (7 * (more + 1 + 1)) = 2 ^ (7 * (more + 1)) * 128 := pow_add _ _ 7
        rw [toNat_shiftRight_group]
        omega
      have := ih shifted
      omega

theorem length_encode_mono {a b : UInt64} (h : a.toNat ≤ b.toNat) :
    (encode a).length ≤ (encode b).length := by
  induction size : b.toNat using Nat.strongRecOn generalizing a b with
  | ind n ih =>
    subst size
    by_cases small : b.toNat < 128
    · rw [encode_small small, encode_small (by omega)]
      exact le_refl _
    · have large : 128 ≤ b.toNat := not_lt.1 small
      rw [encode_large large, List.length_cons]
      by_cases one : a.toNat < 128
      · rw [encode_small one]
        simp
      · have upperA := toNat_shiftRight_group a
        have upperB := toNat_shiftRight_group b
        have upper : (encode (a >>> 7)).length ≤ (encode (b >>> 7)).length :=
          ih (b.toNat / 128) (by omega) (by omega) upperB
        rw [encode_large (not_lt.1 one), List.length_cons]
        omega

/-- A number that was read has a form no longer than the one it was read from. -/
theorem length_encode_of_decode {width : Width} {input rest : Bytes} {value smaller : UInt64}
    (read : decode width input = ⟨.ok value, rest⟩) (h : smaller.toNat ≤ value.toNat) :
    (encode smaller).length + rest.length ≤ input.length := by
  obtain ⟨more, length, small⟩ := decodeFrom_lt (by decide) read
  have short : (encode smaller).length ≤ more + 1 :=
    length_encode_le (h.trans_lt (by simpa using small))
  omega

end Varint

namespace Reading

variable {α β : Type} {reading : Reading α} {input rest : Bytes}

theorem andThen_ok_iff {next : α → Bytes → Reading β} {value : β} :
    reading.andThen next = ⟨.ok value, rest⟩ ↔
      ∃ first middle, reading = ⟨.ok first, middle⟩ ∧ next first middle = ⟨.ok value, rest⟩ := by
  obtain ⟨result, left⟩ := reading
  cases result with
  | ok first => simp [andThen]
  | error error => simp [andThen]

theorem map_ok_iff {f : α → β} {value : β} :
    reading.map f = ⟨.ok value, rest⟩ ↔ ∃ first, reading = ⟨.ok first, rest⟩ ∧ f first = value := by
  obtain ⟨result, left⟩ := reading
  cases result with
  | ok first => simp [map, Except.map, and_comm]
  | error error => simp [map, Except.map]

theorem take_ok {count : Nat} {front : Bytes} (read : take count input = ⟨.ok front, rest⟩) :
    input = front ++ rest ∧ front.length = count := by
  unfold take at read
  split at read
  · rename_i split
    cases read
    exact Bytes.eq_append_of_split? split
  · cases read

end Reading

theorem Utf8.encode_of_decode {octets : Bytes} {text : String}
    (spelled : Utf8.decode octets = .ok text) : Utf8.encode text = octets := by
  unfold Utf8.decode at spelled
  split at spelled
  · rename_i text' found
    cases spelled
    unfold String.fromUTF8? at found
    split at found
    · cases found
      exact List.toList_data_toByteArray
    · cases found
  · cases spelled

theorem length_readFixed {width number : Nat} {input rest : Bytes}
    (read : readFixed width input = ⟨.ok number, rest⟩) : input.length = width + rest.length := by
  obtain ⟨front, taken, -⟩ := Reading.map_ok_iff.1 read
  obtain ⟨rfl, rfl⟩ := Reading.take_ok taken
  exact List.length_append

/-- Octets behind their number: the number is what 64 bits hold. -/
theorem shortest_readSized {data input rest : Bytes} (read : readSized input = ⟨.ok data, rest⟩) :
    data.length < 2 ^ 64 ∧ (writeSized data).length + rest.length ≤ input.length := by
  obtain ⟨count, middle, counted, taken⟩ := Reading.andThen_ok_iff.1 read
  obtain ⟨rfl, length⟩ := Reading.take_ok taken
  have fits : data.length < 2 ^ 64 := length ▸ count.toNat_lt
  have short := Varint.length_encode_of_decode counted (toNat_count fits ▸ length.le)
  rw [List.length_append] at short
  rw [writeSized, List.length_append]
  exact ⟨fits, by omega⟩

namespace ScalarKind

/-- What was read can be written, in no more octets than it was read from. -/
theorem shortest (kind : ScalarKind) {value : kind.Carrier} {input rest : Bytes}
    (read : kind.decode input = ⟨.ok value, rest⟩) :
    kind.Fits value ∧ (kind.encode value).length + rest.length ≤ input.length := by
  cases kind with
  | byte =>
    obtain ⟨number, fixed, -⟩ := Reading.map_ok_iff.1 read
    refine ⟨trivial, ?_⟩
    rw [length_readFixed fixed]
    exact le_refl _
  | bool =>
    obtain ⟨marker, middle, fixed, marked⟩ := Reading.andThen_ok_iff.1 read
    refine ⟨trivial, ?_⟩
    rw [length_readFixed fixed]
    split at marked <;> cases marked <;> exact le_refl _
  | word16 =>
    obtain ⟨number, fixed, -⟩ := Reading.map_ok_iff.1 read
    refine ⟨trivial, ?_⟩
    rw [length_readFixed fixed, encode, Bytes.length_bigEndian]
  | int32 =>
    obtain ⟨number, fixed, -⟩ := Reading.map_ok_iff.1 read
    refine ⟨trivial, ?_⟩
    rw [length_readFixed fixed, encode, Bytes.length_bigEndian]
  | int64 =>
    obtain ⟨number, fixed, -⟩ := Reading.map_ok_iff.1 read
    refine ⟨trivial, ?_⟩
    rw [length_readFixed fixed, encode, Bytes.length_bigEndian]
  | varint32 =>
    obtain ⟨number, counted, rfl⟩ := Reading.map_ok_iff.1 read
    refine ⟨trivial, Varint.length_encode_of_decode counted ?_⟩
    rw [UInt32.toNat_toUInt64, UInt64.toNat_toUInt32]
    exact Nat.mod_le ..
  | varint64 => exact ⟨trivial, Varint.length_encode_of_decode read (le_refl _)⟩
  | bytes => exact shortest_readSized read
  | text =>
    obtain ⟨octets, middle, sized, spelled⟩ := Reading.andThen_ok_iff.1 read
    split at spelled
    · rename_i text decoded
      cases spelled
      have same := Utf8.encode_of_decode decoded
      have short := shortest_readSized sized
      rw [← same] at short
      exact short
    · cases spelled

end ScalarKind

end CodecRegistry
