import CodecRegistry.Proofs.Grammar

/-! The forms of counts and lengths that a reader accepts, padded ones among them, and of what
stands behind a length. An input whose front has such a form is read, and whatever was read had
one. -/

namespace CodecRegistry

namespace Varint

variable {width : Width} {input number rest : Bytes} {value : UInt64} {count : Nat}

theorem Reads.behind (reads : Reads width number ⟨.ok value, []⟩) (rest : Bytes) :
    Reads width (number ++ rest) ⟨.ok value, rest⟩ := by
  cases reads with
  | number goesOn ends few small sum =>
    rw [List.append_assoc]
    exact .number goesOn ends few small sum

theorem Reads.alone (reads : Reads width input ⟨.ok value, rest⟩) :
    ∃ number, Reads width number ⟨.ok value, []⟩ ∧ input = number ++ rest := by
  cases reads with
  | @number front _ last _ goesOn ends few small sum =>
    exact ⟨front ++ [last], .number goesOn ends few small sum, by simp⟩

/-- The octets are a form of the number, the shortest or a padded one. -/
def Spells (number : Bytes) (count : Nat) : Prop :=
  ∃ value : UInt64, value.toNat = count ∧ Reads .w64 number ⟨.ok value, []⟩

theorem Spells.decode (spells : Spells number count) :
    ∃ value : UInt64, value.toNat = count ∧
      ∀ rest, ScalarKind.varint64.decode (number ++ rest) = ⟨.ok value, rest⟩ := by
  obtain ⟨value, same, reads⟩ := spells
  exact ⟨value, same, fun rest => (reads.behind rest).decode_eq⟩

/-- A number that was read stood at the front. -/
theorem spells_of_decode (read : ScalarKind.varint64.decode input = ⟨.ok value, rest⟩) :
    ∃ number, Spells number value.toNat ∧ input = number ++ rest := by
  obtain ⟨number, reads, same⟩ := (decode_eq_iff.1 read).alone
  exact ⟨number, ⟨value, rfl, reads⟩, same⟩

theorem Spells.lt (spells : Spells number count) : count < 2 ^ 64 := by
  obtain ⟨value, rfl, -⟩ := spells
  exact value.toNat_lt

theorem spells_encode (fits : count < 2 ^ 64) : Spells (encode (UInt64.ofNat count)) count := by
  have same : (UInt64.ofNat count).toNat = count := by
    rw [UInt64.toNat_ofNat']
    exact Nat.mod_eq_of_lt fits
  refine ⟨UInt64.ofNat count, same, decode_eq_iff.1 ?_⟩
  have read : decode .w64 (encode (UInt64.ofNat count) ++ []) = ⟨.ok (UInt64.ofNat count), []⟩ :=
    decode_encode (UInt64.ofNat count).toNat_lt []
  rwa [List.append_nil] at read

end Varint

/-- Octets behind a form of their number. -/
def Sized (written data : Bytes) : Prop :=
  ∃ number, Varint.Spells number data.length ∧ written = number ++ data

variable {input written data rest : Bytes} {text : String}

theorem sized_writeSized (fits : data.length < 2 ^ 64) : Sized (writeSized data) data :=
  ⟨_, Varint.spells_encode fits, rfl⟩

theorem Sized.readSized (sized : Sized written data) (rest : Bytes) :
    readSized (written ++ rest) = ⟨.ok data, rest⟩ := by
  obtain ⟨number, spells, rfl⟩ := sized
  obtain ⟨count, same, read⟩ := spells.decode
  refine Reading.andThen_ok_iff.2 ⟨count, data ++ rest, ?_, ?_⟩
  · rw [List.append_assoc]
    exact read _
  · exact Reading.take_append same.symm rest

theorem sized_of_readSized (read : readSized input = ⟨.ok data, rest⟩) :
    ∃ written, Sized written data ∧ input = written ++ rest := by
  obtain ⟨count, middle, counted, taken⟩ := Reading.andThen_ok_iff.1 read
  obtain ⟨number, spells, rfl⟩ := Varint.spells_of_decode counted
  obtain ⟨rfl, length⟩ := Reading.take_ok taken
  refine ⟨number ++ data, ⟨number, ?_, rfl⟩, by simp⟩
  rw [length]
  exact spells

theorem Sized.readText (sized : Sized written (Utf8.encode text)) (rest : Bytes) :
    readText (written ++ rest) = ⟨.ok text, rest⟩ := by
  refine Reading.andThen_ok_iff.2 ⟨_, _, sized.readSized rest, ?_⟩
  rw [Utf8.decode_encode]

end CodecRegistry
