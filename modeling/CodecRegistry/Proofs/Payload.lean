import CodecRegistry.BuiltIn
import CodecRegistry.Proofs.Frame

/-! What the built-in codecs wrote, they read back. A codec without nested frames ends with its
object; one with a nested frame goes on with whatever the reader of frames makes of that. -/

namespace CodecRegistry.Codec

variable (frame : Bytes → Decoding Object) (frames : Nat) (flag : Bool)

open ReadProgram

namespace Maps

/-- Whether an entry can be written. -/
def EntryFits (entry : String × Bytes) : Prop :=
  ScalarKind.text.Fits entry.1 ∧ ScalarKind.bytes.Fits entry.2

instance : DecidablePred EntryFits := fun _ => inferInstanceAs (Decidable (_ ∧ _))

theorem run_readEntries {entries : List (String × Bytes)}
    (fits : ∀ entry ∈ entries, EntryFits entry) (before : List (String × Bytes)) (rest : Bytes) :
    (readEntries entries.length before).run frame frames flag
        (entries.flatMap writeEntry ++ rest) =
      ⟨.ok (before.reverse ++ entries), rest, []⟩ := by
  induction entries generalizing before with
  | nil => simp [readEntries]
  | cons entry later ih =>
    obtain ⟨nameFits, dataFits⟩ := fits entry (by simp)
    have shape : (entry :: later).flatMap writeEntry ++ rest =
        ScalarKind.text.encode entry.1 ++
          (ScalarKind.bytes.encode entry.2 ++ (later.flatMap writeEntry ++ rest)) := by
      simp [writeEntry, List.append_assoc]
    rw [shape, List.length_cons, readEntries, run_value_bind _ _ _ .text nameFits,
      run_value_bind _ _ _ .bytes dataFits,
      ih (fun entry mem => fits entry (List.mem_cons_of_mem _ mem))]
    simp

/-- The entries are read in order; the kind then says what becomes of them. -/
theorem run_read {kind : UInt8} {entries : List (String × Bytes)} (count : entries.length < 2 ^ 64)
    (fits : ∀ entry ∈ entries, EntryFits entry) (rest : Bytes) :
    read.run frame frames flag (payload kind entries ++ rest) =
      (if kind = unorderedKind then pure (.unorderedMap (.ofList entries))
        else if kind = sortedKind then pure (.sortedMap (.ofList entries))
        else .fail (.malformed (.mapKind kind)) : ReadProgram Object).run frame frames flag
          rest := by
  have shape : payload kind entries ++ rest = ScalarKind.byte.encode kind ++
      (ScalarKind.varint64.encode (UInt64.ofNat entries.length) ++
        (entries.flatMap writeEntry ++ rest)) := by
    simp [payload, ScalarKind.encode]
  rw [shape, read, run_value_bind _ _ _ .byte trivial, run_value_bind _ _ _ .varint64 trivial,
    toNat_count count, run_bind, run_readEntries _ _ _ fits, Decoding.andThen_ok]
  rfl

theorem run_read_unordered {contents : FiniteMap String Bytes}
    (count : contents.entries.length < 2 ^ 64) (fits : ∀ entry ∈ contents.entries, EntryFits entry)
    (rest : Bytes) :
    read.run frame frames flag (payload unorderedKind contents.entries ++ rest) =
      ⟨.ok (.unorderedMap contents), rest, []⟩ := by
  rw [run_read _ _ _ count fits, if_pos rfl, FiniteMap.ofList_entries]
  rfl

theorem run_read_sorted {contents : SortedMap} (count : contents.entries.length < 2 ^ 64)
    (fits : ∀ entry ∈ contents.entries, EntryFits entry) (rest : Bytes) :
    read.run frame frames flag (payload sortedKind contents.entries ++ rest) =
      ⟨.ok (.sortedMap contents), rest, []⟩ := by
  rw [run_read _ _ _ count fits, if_neg (by decide), if_pos rfl, SortedMap.ofList_entries]
  rfl

end Maps

namespace Addresses

theorem run_read {name : String} (fits : ScalarKind.text.Fits name) (rest : Bytes) :
    read.run frame frames flag (ScalarKind.text.encode name ++ rest) =
      ⟨.ok (.address name), rest, []⟩ := by
  rw [read, run_value_bind _ _ _ .text fits]
  rfl

/-- The name that an address holds; any other object is refused. -/
def nameOf : Object → ReadProgram String
  | .address name => pure name
  | _ => .fail (.wrongType ObjectType.address.name)

theorem readNested_eq : readNested = nested >>= nameOf := rfl

end Addresses

namespace Transactions

theorem run_read_anonymous (number : UInt64) (rest : Bytes) :
    read.run frame frames flag
        (ScalarKind.varint64.encode number ++ ScalarKind.bool.encode false ++ rest) =
      ⟨.ok (.transaction number none true), rest, []⟩ := by
  rw [List.append_assoc, read, run_value_bind _ _ _ .varint64 trivial,
    run_value_bind _ _ _ .bool trivial]
  rfl

theorem run_read_owned (number : UInt64) (input : Bytes) :
    read.run frame frames flag
        (ScalarKind.varint64.encode number ++ ScalarKind.bool.encode true ++ input) =
      (frame input).andThen fun value rest =>
        (Addresses.nameOf value >>= fun name =>
          pure (.transaction number (some name) true)).run frame frames flag rest := by
  rw [List.append_assoc, read, run_value_bind _ _ _ .varint64 trivial,
    run_value_bind _ _ _ .bool trivial, if_pos rfl, Addresses.readNested_eq, bind_assoc,
    run_nested_bind]

end Transactions

namespace Packed

theorem run_read (marshaller : Marshaller) {value : PackedValue}
    (fits : ScalarKind.bytes.Fits value.raw) (rest : Bytes) :
    (read marshaller).run frame frames flag
        (ScalarKind.bytes.encode value.raw ++ ScalarKind.int32.encode value.hash.toInt32 ++ rest) =
      ⟨.ok (.packed ⟨value.raw, value.hash, marshaller⟩), rest, []⟩ := by
  rw [List.append_assoc, read, run_value_bind _ _ _ .bytes fits,
    run_value_bind _ _ _ .int32 trivial]
  rfl

end Packed

namespace Successes

theorem run_read_empty (rest : Bytes) :
    read.run frame frames flag (ScalarKind.bool.encode false ++ rest) =
      ⟨.ok .emptySuccess, rest, []⟩ := by
  rw [read, run_value_bind _ _ _ .bool trivial]
  rfl

theorem run_read_carrying (input : Bytes) :
    read.run frame frames flag (ScalarKind.bool.encode true ++ input) =
      (frame input).andThen fun value rest =>
        (pure (.success value) : ReadProgram Object).run frame frames flag rest := by
  rw [read, run_value_bind _ _ _ .bool trivial, if_pos rfl, run_nested_bind]

end Successes

namespace Commands

theorem run_readParameters {parameters : List Bytes}
    (fits : ∀ parameter ∈ parameters, ScalarKind.bytes.Fits parameter) (before : List Bytes)
    (rest : Bytes) :
    (readParameters parameters.length before).run frame frames flag
        (parameters.flatMap ScalarKind.bytes.encode ++ rest) =
      ⟨.ok (before.reverse ++ parameters), rest, []⟩ := by
  induction parameters generalizing before with
  | nil => simp [readParameters]
  | cons parameter later ih =>
    rw [List.flatMap_cons, List.append_assoc, List.length_cons, readParameters,
      run_value_bind _ _ _ .bytes (fits parameter (by simp)),
      ih (fun parameter mem => fits parameter (List.mem_cons_of_mem _ mem))]
    simp

theorem run_read {command : RemoteCommand} (count : command.parameters.length < 2 ^ 64)
    (fits : ∀ parameter ∈ command.parameters, ScalarKind.bytes.Fits parameter) (rest : Bytes) :
    (read .asGiven).run frame frames flag (payload command ++ rest) =
      ⟨.ok (.command command), rest, []⟩ := by
  have shape : payload command ++ rest = ScalarKind.byte.encode command.id ++
      (ScalarKind.varint64.encode (UInt64.ofNat command.parameters.length) ++
        (command.parameters.flatMap ScalarKind.bytes.encode ++ rest)) := by
    simp [payload, ScalarKind.encode]
  rw [shape, read, run_value_bind _ _ _ .byte trivial, run_value_bind _ _ _ .varint64 trivial,
    toNat_count count, run_bind, run_readParameters _ _ _ fits, Decoding.andThen_ok]
  rfl

end Commands

namespace Keys

theorem run_read {data : Bytes} (fits : ScalarKind.bytes.Fits data) (rest : Bytes) :
    read.run frame frames flag (ScalarKind.bytes.encode data ++ rest) =
      ⟨.ok (.key data), rest, []⟩ := by
  rw [read, run_value_bind _ _ _ .bytes fits]
  rfl

/-- The octets that a key holds; any other object is refused. -/
def dataOf : Object → ReadProgram Bytes
  | .key data => pure data
  | _ => .fail (.wrongType ObjectType.key.name)

theorem readNested_eq : readNested = nested >>= dataOf := rfl

end Keys

namespace ImmortalEntries

theorem run_read (input : Bytes) :
    read.run frame frames flag input =
      (frame input).andThen fun value rest =>
        (Keys.dataOf value >>= fun key => ReadProgram.value .bytes >>= fun value =>
          pure (.immortalEntry key value)).run frame frames flag rest := by
  rw [read, Keys.readNested_eq, bind_assoc, run_nested_bind]

end ImmortalEntries

namespace MortalEntries

theorem run_read (input : Bytes) :
    read.run frame frames flag input =
      (frame input).andThen fun value rest =>
        (Keys.dataOf value >>= fun key => ReadProgram.value .bytes >>= fun value =>
          ReadProgram.value .int64 >>= fun created => ReadProgram.value .int64 >>= fun lifespan =>
            pure (.mortalEntry ⟨key, value, created, lifespan⟩)).run frame frames flag rest := by
  rw [read, Keys.readNested_eq, bind_assoc, run_nested_bind]

end MortalEntries

end CodecRegistry.Codec
