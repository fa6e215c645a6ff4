import CodecRegistry.Proofs.Shortest
import Mathlib.Data.List.Induction
import Mathlib.Data.Nat.Digits.Defs

/-! Which bytes are a number, said without a reader. A number goes on up to its first byte without
the high bit. The groups so far stay within a width as long as there are no more of them than it
takes and their sum fits; the first byte that leaves the width is refused, and an input that ends
before either byte came is too short. The reader keeps the sum of the groups and their number of
bits, so each of its steps decides whether one more byte stays within. -/

namespace CodecRegistry.Varint

/-- The sum of the groups of seven bits, in which each one weighs 128 times as much as the one
before. -/
def total (bytes : Bytes) : Nat := Nat.ofDigits 128 (bytes.map fun byte => byte.toNat % 128)

/-- How many groups it takes to hold every number of a width. -/
def Width.groups (width : Width) : Nat := (width.bits + 6) / 7

structure Within (width : Width) (bytes : Bytes) : Prop where
  few : bytes.length ≤ width.groups
  small : total bytes < 2 ^ width.bits

/-- Behind each of the bytes another one belongs to the number. -/
def GoesOn (bytes : Bytes) : Prop := ∀ byte ∈ bytes, 128 ≤ byte.toNat

/-- What reading a number from the front of an input comes to, and what it leaves. An input that is
too short is empty, or ends on a byte behind which the number goes on. -/
inductive Reads (width : Width) : Bytes → Reading UInt64 → Prop
  | number {front rest : Bytes} {last : UInt8} {value : UInt64} (goesOn : GoesOn front)
      (ends : last.toNat < 128) (few : front.length + 1 ≤ width.groups)
      (small : total (front ++ [last]) < 2 ^ width.bits)
      (sum : value.toNat = total (front ++ [last])) :
      Reads width (front ++ last :: rest) ⟨.ok value, rest⟩
  | overflow {front rest : Bytes} {byte : UInt8} (goesOn : GoesOn front)
      (before : Within width front)
      (exceeds : width.groups < front.length + 1 ∨ 2 ^ width.bits ≤ total (front ++ [byte])) :
      Reads width (front ++ byte :: rest) ⟨.error (.varintOverflow width.bits), rest⟩
  | truncated {input : Bytes} (goesOn : GoesOn input) (within : Within width input) :
      Reads width input ⟨.error (.truncated 1 0), []⟩

variable {width : Width} {soFar : Partial} {front rest input : Bytes} {byte last : UInt8}

theorem total_concat (front : Bytes) (byte : UInt8) :
    total (front ++ [byte]) = total front + byte.toNat % 128 * 2 ^ (7 * front.length) := by
  rw [total, List.map_append, Nat.ofDigits_append, List.length_map, pow_mul]
  simp [total, mul_comm]

theorem groups_lt (bytes : Bytes) :
    ∀ group ∈ bytes.map fun byte => byte.toNat % 128, group < 128 := by
  intro group mem
  obtain ⟨byte, -, rfl⟩ := List.mem_map.1 mem
  exact Nat.mod_lt _ (by decide)

theorem total_lt (bytes : Bytes) : total bytes < 2 ^ (7 * bytes.length) := by
  have bound := Nat.ofDigits_lt_base_pow_length (by decide) (groups_lt bytes)
  rw [List.length_map] at bound
  rw [pow_mul]
  exact bound

theorem within_nil (width : Width) : Within width [] where
  few := Nat.zero_le _
  small := Nat.two_pow_pos _

theorem within_concat_iff :
    Within width (front ++ [byte]) ↔
      front.length + 1 ≤ width.groups ∧ total (front ++ [byte]) < 2 ^ width.bits := by
  constructor
  · rintro ⟨few, small⟩
    exact ⟨by simpa using few, small⟩
  · rintro ⟨few, small⟩
    exact ⟨by simpa using few, small⟩

theorem not_within_concat_iff :
    ¬ Within width (front ++ [byte]) ↔
      width.groups < front.length + 1 ∨ 2 ^ width.bits ≤ total (front ++ [byte]) := by
  rw [within_concat_iff, not_and_or, not_le, not_lt]

theorem Within.of_concat (within : Within width (front ++ [byte])) : Within width front := by
  obtain ⟨few, small⟩ := within_concat_iff.1 within
  rw [total_concat] at small
  exact ⟨Nat.le_of_succ_le few, Nat.lt_of_le_of_lt (Nat.le_add_right ..) small⟩

theorem Width.lt_groups_iff (width : Width) (count : Nat) :
    count + 1 ≤ width.groups ↔ 7 * count < width.bits := by
  unfold groups
  omega

/-! ## One step of the reader -/

/-- What the reader keeps of the bytes it has looked at. -/
structure Partial.Holds (soFar : Partial) (looked : Bytes) : Prop where
  value : soFar.value.toNat = total looked
  shift : soFar.shift.toNat = 7 * looked.length

/-- A group at a place within the width reaches the width only by itself: what stands below it fits
into the gap. -/
theorem add_group_lt {low group place bits : Nat} (below : low < 2 ^ place) (room : place ≤ bits)
    (fits : group * 2 ^ place < 2 ^ bits) : low + group * 2 ^ place < 2 ^ bits := by
  obtain ⟨more, rfl⟩ := Nat.exists_eq_add_of_le room
  rw [pow_add, mul_comm (2 ^ place)] at fits ⊢
  have next : group + 1 ≤ 2 ^ more := Nat.lt_of_mul_lt_mul_right fits
  calc low + group * 2 ^ place < 2 ^ place + group * 2 ^ place := Nat.add_lt_add_right below _
    _ = (group + 1) * 2 ^ place := by ring
    _ ≤ 2 ^ more * 2 ^ place := Nat.mul_le_mul_right _ next

theorem step_within (holds : soFar.Holds front) (within : Within width (front ++ [byte])) :
    ∃ next : Partial, next.Holds (front ++ [byte]) ∧
      step width soFar byte =
        if byte.toNat < 128 then .finished next.value else .more next := by
  obtain ⟨few, small⟩ := within_concat_iff.1 within
  have room : soFar.shift.toNat < width.bits := by
    rw [holds.shift]
    exact (width.lt_groups_iff _).1 few
  have filled : soFar.value.toNat < 2 ^ soFar.shift.toNat := by
    rw [holds.value, holds.shift]
    exact total_lt front
  have fits : byte.toNat % 128 * 2 ^ soFar.shift.toNat < 2 ^ width.bits := by
    rw [total_concat, ← holds.shift] at small
    omega
  obtain ⟨value, sum, stepped⟩ := step_fits byte filled room fits
  refine ⟨⟨value, soFar.shift + 7⟩, ⟨?_, ?_⟩, stepped⟩
  · rw [sum, total_concat, holds.value, holds.shift]
  · rw [toNat_next_place _ (room.trans_le width.bits_le), holds.shift, List.length_append,
      List.length_singleton]
    omega

theorem step_beyond (holds : soFar.Holds front) (beyond : ¬ Within width (front ++ [byte])) :
    step width soFar byte = .overflow := by
  by_contra inside
  obtain ⟨room, fits⟩ := fits_of_step inside
  rw [holds.shift] at room fits
  apply beyond
  rw [within_concat_iff, total_concat]
  exact ⟨(width.lt_groups_iff _).2 room, add_group_lt (total_lt front) room.le fits⟩

/-! ## A whole read -/

/-- The reader passes over bytes behind which the number goes on. -/
theorem decodeFrom_goesOn {looked : Bytes} (holds : soFar.Holds looked) (goesOn : GoesOn front)
    (within : Within width (looked ++ front)) :
    ∃ next : Partial, next.Holds (looked ++ front) ∧
      ∀ rest, decodeFrom width soFar (front ++ rest) = decodeFrom width next rest := by
  induction front using List.reverseRecOn with
  | nil =>
    rw [List.append_nil]
    exact ⟨soFar, holds, fun _ => rfl⟩
  | append_singleton front byte ih =>
    rw [← List.append_assoc] at within ⊢
    obtain ⟨before, last⟩ := List.forall_mem_append.1 goesOn
    obtain ⟨next, held, passed⟩ := ih before within.of_concat
    obtain ⟨after, heldAfter, stepped⟩ := step_within held within
    refine ⟨after, heldAfter, fun rest => ?_⟩
    rw [List.append_assoc, passed, List.singleton_append, decodeFrom, stepped,
      if_neg (Nat.not_lt.2 (last byte List.mem_cons_self))]

theorem holds_nothing : Partial.Holds ⟨0, 0⟩ [] := ⟨rfl, rfl⟩

theorem Reads.decode_eq {reading : Reading UInt64} (reads : Reads width input reading) :
    decode width input = reading := by
  cases reads with
  | number goesOn ends few small sum =>
    have within := within_concat_iff.2 ⟨few, small⟩
    obtain ⟨soFar, held, passed⟩ := decodeFrom_goesOn holds_nothing goesOn within.of_concat
    obtain ⟨next, heldNext, stepped⟩ := step_within held within
    rw [decode, passed, decodeFrom, stepped, if_pos ends]
    rw [← UInt64.toNat_inj.1 (heldNext.value.trans sum.symm)]
  | overflow goesOn before exceeds =>
    obtain ⟨soFar, held, passed⟩ := decodeFrom_goesOn holds_nothing goesOn before
    rw [decode, passed, decodeFrom, step_beyond held (not_within_concat_iff.2 exceeds)]
  | truncated goesOn within =>
    obtain ⟨soFar, -, passed⟩ := decodeFrom_goesOn holds_nothing goesOn within
    have reached := passed []
    rw [List.append_nil] at reached
    rw [decode, reached]
    rfl

/-- Every input is of one of the three kinds. -/
theorem exists_reads (width : Width) (input : Bytes) : ∃ reading, Reads width input reading := by
  induction input using List.reverseRecOn with
  | nil => exact ⟨_, .truncated (fun _ mem => absurd mem List.not_mem_nil) (within_nil width)⟩
  | append_singleton front byte ih =>
    obtain ⟨reading, reads⟩ := ih
    cases reads with
    | number goesOn ends few small sum =>
      rw [List.append_assoc, List.cons_append]
      exact ⟨_, .number goesOn ends few small sum⟩
    | overflow goesOn before exceeds =>
      rw [List.append_assoc, List.cons_append]
      exact ⟨_, .overflow goesOn before exceeds⟩
    | truncated goesOn before =>
      by_cases within : Within width (front ++ [byte])
      · obtain ⟨few, small⟩ := within_concat_iff.1 within
        by_cases ends : byte.toNat < 128
        · have holds : (UInt64.ofNat (total (front ++ [byte]))).toNat =
              total (front ++ [byte]) := by
            rw [UInt64.toNat_ofNat']
            exact Nat.mod_eq_of_lt (small.trans_le (Nat.pow_le_pow_right (by decide) width.bits_le))
          exact ⟨_, .number goesOn ends few small holds⟩
        · refine ⟨_, .truncated (List.forall_mem_append.2 ⟨goesOn, ?_⟩) within⟩
          intro other mem
          rw [List.mem_singleton.1 mem]
          exact Nat.not_lt.1 ends
      · exact ⟨_, .overflow goesOn before (not_within_concat_iff.1 within)⟩

theorem decode_eq_iff {reading : Reading UInt64} :
    decode width input = reading ↔ Reads width input reading := by
  constructor
  · rintro rfl
    obtain ⟨reading, reads⟩ := exists_reads width input
    rw [reads.decode_eq]
    exact reads
  · exact Reads.decode_eq

/-- What a narrow reader accepts a wider one accepts. -/
theorem Reads.widen {value : UInt64} (reads : Reads .w32 input ⟨.ok value, rest⟩) :
    Reads .w64 input ⟨.ok value, rest⟩ := by
  cases reads with
  | number goesOn ends few small sum =>
    exact .number goesOn ends (few.trans (by decide)) (small.trans (by decide)) sum

/-- What was read at 32 bits is handed out as it is, for the word that takes it is wide enough. -/
theorem decode_varint32_iff {reading : Reading UInt32} :
    ScalarKind.varint32.decode input = reading ↔
      Reads .w32 input (reading.map UInt32.toUInt64) := by
  rw [← decode_eq_iff, ScalarKind.decode]
  obtain ⟨result, rest⟩ := reading
  constructor
  · intro read
    cases number : decode .w32 input with
    | mk found left =>
      rw [number] at read
      cases read
      cases found with
      | error error => rfl
      | ok value =>
        cases decode_eq_iff.1 number with
        | number goesOn ends few small sum =>
          have same : value.toUInt32.toUInt64 = value := by
            rw [← UInt64.toNat_inj, UInt32.toNat_toUInt64, UInt64.toNat_toUInt32,
              Nat.mod_eq_of_lt (sum ▸ small)]
          simp only [Reading.map, Except.map, same]
  · intro read
    rw [read]
    cases result with
    | error error => rfl
    | ok value => simp only [Reading.map, Except.map, UInt32.toUInt32_toUInt64]

/-- The reader of numbers accepts its grammar and nothing else, and where it refuses an input, it
does so at the first byte that leaves the width, or at the end of an input that never came to one.
So at 32 bits it reads as at 64 whatever it accepts, and it accepts every form, padded or not, of up
to five bytes whose value 32 bits hold. -/
theorem decode_grammar :
    (∀ width input reading, decode width input = reading ↔ Reads width input reading) ∧
    (∀ input reading, ScalarKind.varint64.decode input = reading ↔ Reads .w64 input reading) ∧
    (∀ input reading, ScalarKind.varint32.decode input = reading ↔
      Reads .w32 input (reading.map UInt32.toUInt64)) ∧
    (∀ input value rest, ScalarKind.varint32.decode input = ⟨.ok value, rest⟩ →
      ScalarKind.varint64.decode input = ⟨.ok value.toUInt64, rest⟩) ∧
    ∀ front last rest, GoesOn front → last.toNat < 128 → front.length + 1 ≤ 5 →
      total (front ++ [last]) < 2 ^ 32 →
        ScalarKind.varint32.decode (front ++ last :: rest) =
          ⟨.ok (UInt32.ofNat (total (front ++ [last]))), rest⟩ := by
  refine ⟨fun _ _ _ => decode_eq_iff, fun _ _ => decode_eq_iff,
    fun _ _ => decode_varint32_iff, ?_, ?_⟩
  · intro input value rest read
    exact (decode_varint32_iff.1 read).widen.decode_eq
  · intro front last rest goesOn ends few small
    refine decode_varint32_iff.2 (.number goesOn ends few small ?_)
    rw [UInt32.toNat_toUInt64, UInt32.toNat_ofNat']
    exact Nat.mod_eq_of_lt small

end CodecRegistry.Varint
