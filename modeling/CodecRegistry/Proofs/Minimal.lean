import CodecRegistry.Proofs.Grammar
import Mathlib.Data.Nat.Log

/-! The form in which a number is written. Its length is known from the highest bit, it reads back
as the number, and any other form of the number is longer: none is shorter, and of one length there
is only one, because the groups are the digits of the number. -/

namespace CodecRegistry.Varint

/-- A form in which a value is written. It reads back whatever stands behind it, it is as long as
was computed, only its last byte is without the high bit, and whatever else reads as the value is
longer. -/
structure ShortestForm {α : Type} (read : Bytes → Reading α) (value : α) (length : Nat)
    (written : Bytes) : Prop where
  inverse : ∀ rest, read (written ++ rest) = ⟨.ok value, rest⟩
  counted : written.length = length
  marked : ∃ front last, written = front ++ [last] ∧ GoesOn front ∧ last.toNat < 128
  least : ∀ input, read input = ⟨.ok value, []⟩ → input ≠ written → written.length < input.length

variable {width : Width} {value : UInt64} {input other front : Bytes} {last : UInt8}

theorem log2_group {number : Nat} (large : 128 ≤ number) :
    number.log2 = (number / 128).log2 + 7 := by
  have reaches : 7 ≤ Nat.log 2 number := Nat.le_log_of_pow_le (by decide) large
  rw [Nat.log2_eq_log_two, Nat.log2_eq_log_two, show 128 = 2 ^ 7 from rfl, Nat.log_div_base_pow]
  omega

/-- The highest bit says how many groups there are. -/
theorem length_encode (value : UInt64) : (encode value).length = encodedLength value := by
  induction size : value.toNat using Nat.strongRecOn generalizing value with
  | ind n ih =>
    subst size
    by_cases small : value.toNat < 128
    · have bits : value.toNat.log2 < 7 := by
        by_cases zero : value.toNat = 0
        · rw [zero]
          decide
        · exact (Nat.log2_lt zero).2 small
      rw [encode_small small, encodedLength, significantBits, List.length_singleton]
      omega
    · have large : 128 ≤ value.toNat := not_lt.1 small
      have upper := toNat_shiftRight_group value
      have later := ih (value.toNat / 128) (by omega) (value >>> 7) upper
      rw [encodedLength, significantBits, upper] at later
      rw [encode_large large, List.length_cons, later, encodedLength, significantBits,
        log2_group large]
      omega

/-- A number that ends with the input is all of it. -/
theorem Reads.whole (reads : Reads width input ⟨.ok value, []⟩) :
    ∃ front last, input = front ++ [last] ∧ GoesOn front ∧ last.toNat < 128 ∧
      value.toNat = total input := by
  cases reads with
  | number goesOn ends few small sum => exact ⟨_, _, rfl, goesOn, ends, sum⟩

/-- Where the number goes on, a byte is its group with the high bit. -/
theorem GoesOn.map_groups (goesOn : GoesOn front) :
    (front.map fun byte => byte.toNat % 128).map (fun group => UInt8.ofNat (group + 128)) =
      front := by
  have marked : ∀ byte ∈ front, UInt8.ofNat (byte.toNat % 128 + 128) = byte := by
    intro byte mem
    have high := goesOn byte mem
    have low := byte.toNat_lt
    rw [show byte.toNat % 128 + 128 = byte.toNat by omega, UInt8.ofNat_toNat]
  rw [List.map_map]
  exact (List.map_congr_left marked).trans (List.map_id front)

/-- Of one length, only one form reads as a number. -/
theorem decode_unique (read : decode width input = ⟨.ok value, []⟩)
    (readOther : decode width other = ⟨.ok value, []⟩) (length : input.length = other.length) :
    input = other := by
  obtain ⟨front, last, rfl, goesOn, ends, sum⟩ := (decode_eq_iff.1 read).whole
  obtain ⟨front', last', rfl, goesOn', ends', sum'⟩ := (decode_eq_iff.1 readOther).whole
  have groups : (front ++ [last]).map (fun byte => byte.toNat % 128) =
      (front' ++ [last']).map fun byte => byte.toNat % 128 :=
    Nat.ofDigits_inj_of_len_eq (by decide) (by simpa using length) (groups_lt _) (groups_lt _)
      (sum.symm.trans sum')
  rw [List.map_append, List.map_append] at groups
  obtain ⟨fronts, lasts⟩ := List.append_inj' groups rfl
  have sameLast : last = last' := by
    rw [List.map_singleton, List.map_singleton, List.singleton_inj, Nat.mod_eq_of_lt ends,
      Nat.mod_eq_of_lt ends', UInt8.toNat_inj] at lasts
    exact lasts
  rw [← goesOn.map_groups, ← goesOn'.map_groups, fronts, sameLast]

theorem shortestForm_encode (fits : value.toNat < 2 ^ width.bits) :
    ShortestForm (decode width) value (encodedLength value) (encode value) where
  inverse := decode_encode fits
  counted := length_encode value
  marked := by
    have read := decode_encode fits []
    rw [List.append_nil] at read
    obtain ⟨front, last, form, goesOn, ends, -⟩ := (decode_eq_iff.1 read).whole
    exact ⟨front, last, form, goesOn, ends⟩
  least := by
    intro input read different
    have read' := decode_encode fits []
    rw [List.append_nil] at read'
    have bound := length_encode_of_decode read le_rfl
    refine lt_of_le_of_ne (by simpa using bound) fun length => different ?_
    exact decode_unique read read' length.symm

theorem shortestForm_varint64 (value : UInt64) :
    ShortestForm ScalarKind.varint64.decode value (encodedLength value)
      (ScalarKind.varint64.encode value) :=
  shortestForm_encode value.toNat_lt

theorem shortestForm_varint32 (value : UInt32) :
    ShortestForm ScalarKind.varint32.decode value (encodedLength value.toUInt64)
      (ScalarKind.varint32.encode value) := by
  have fits : value.toUInt64.toNat < 2 ^ Width.w32.bits := by
    rw [UInt32.toNat_toUInt64]
    exact value.toNat_lt
  have wide := shortestForm_encode fits
  refine ⟨ScalarKind.decode_encode .varint32 trivial, wide.counted, wide.marked, ?_⟩
  intro input read
  exact wide.least input (decode_varint32_iff.1 read).decode_eq

/-- Writing a number and reading it are inverse, at 64 bits and at 32, and what is written is the
one shortest form of it. -/
theorem written_shortest :
    (∀ value : UInt64, ShortestForm ScalarKind.varint64.decode value (encodedLength value)
      (ScalarKind.varint64.encode value)) ∧
    ∀ value : UInt32, ShortestForm ScalarKind.varint32.decode value (encodedLength value.toUInt64)
      (ScalarKind.varint32.encode value) :=
  ⟨shortestForm_varint64, shortestForm_varint32⟩

end CodecRegistry.Varint
