import CodecRegistry.Proofs.BuiltIn
import CodecRegistry.Proofs.Payload

/-! What a running registry makes of one object of a built-in type: the frame that it writes reads
back, as long as no more frames are nested than a reader opens. The induction is on the object, and
the frame of a nested object is read with one level less. -/

namespace CodecRegistry

open Codec

namespace Object

/-- The objects of built-in types. Lengths and counts are those that a machine of 64 bits can
have. -/
inductive BuiltIn : Object → Prop
  | unorderedMap {contents : FiniteMap String Bytes} (count : contents.entries.length < 2 ^ 64)
      (fits : ∀ entry ∈ contents.entries, Maps.EntryFits entry) : BuiltIn (.unorderedMap contents)
  | sortedMap {contents : SortedMap} (count : contents.entries.length < 2 ^ 64)
      (fits : ∀ entry ∈ contents.entries, Maps.EntryFits entry) : BuiltIn (.sortedMap contents)
  | address {name : String} (fits : ScalarKind.text.Fits name) : BuiltIn (.address name)
  | transaction {id : UInt64} {owner : Option String} {remote : Bool}
      (fits : ∀ name ∈ owner, ScalarKind.text.Fits name) : BuiltIn (.transaction id owner remote)
  | packed {value : PackedValue} (fits : ScalarKind.bytes.Fits value.raw) : BuiltIn (.packed value)
  | emptySuccess : BuiltIn .emptySuccess
  | success {value : Object} (inner : BuiltIn value) : BuiltIn (.success value)
  | failure : BuiltIn .failure
  | ignored : BuiltIn .ignored
  | command {command : RemoteCommand} (count : command.parameters.length < 2 ^ 64)
      (fits : ∀ parameter ∈ command.parameters, ScalarKind.bytes.Fits parameter) :
      BuiltIn (.command command)
  | key {data : Bytes} (fits : ScalarKind.bytes.Fits data) : BuiltIn (.key data)
  | immortalEntry {key value : Bytes} (keyFits : ScalarKind.bytes.Fits key)
      (valueFits : ScalarKind.bytes.Fits value) : BuiltIn (.immortalEntry key value)
  | mortalEntry {entry : MortalEntry} (keyFits : ScalarKind.bytes.Fits entry.key)
      (valueFits : ScalarKind.bytes.Fits entry.value) : BuiltIn (.mortalEntry entry)

/-- What a reader makes of an object: a transaction that was read came from another node, and a
packed value is unpacked with what the reader's registry was handed. -/
def received (services : Services) : Object → Object
  | transaction id owner _ => transaction id owner true
  | packed value => packed { value with marshaller := services.marshaller }
  | success value => success (value.received services)
  | object => object

/-- The frame of an object of a built-in type, as the built-in codecs write it. -/
def frame : Object → Bytes
  | .unorderedMap contents => Maps.id :: Maps.payload Maps.unorderedKind contents.entries
  | .sortedMap contents => Maps.id :: Maps.payload Maps.sortedKind contents.entries
  | .address name => Addresses.id :: ScalarKind.text.encode name
  | .transaction number (some name) _ =>
    Transactions.id :: (ScalarKind.varint64.encode number ++ ScalarKind.bool.encode true ++
      Addresses.id :: ScalarKind.text.encode name)
  | .transaction number none _ =>
    Transactions.id :: (ScalarKind.varint64.encode number ++ ScalarKind.bool.encode false)
  | .packed value =>
    Packed.id :: (ScalarKind.bytes.encode value.raw ++ ScalarKind.int32.encode value.hash.toInt32)
  | .emptySuccess => Successes.id :: ScalarKind.bool.encode false
  | .success value => Successes.id :: (ScalarKind.bool.encode true ++ value.frame)
  | .failure => [Failures.id]
  | .ignored => [Ignored.id]
  | .command value => Commands.id :: Commands.payload value
  | .key data => Keys.id :: ScalarKind.bytes.encode data
  | .immortalEntry data value =>
    ImmortalEntries.id :: Keys.id ::
      (ScalarKind.bytes.encode data ++ ScalarKind.bytes.encode value)
  | .mortalEntry entry =>
    MortalEntries.id :: Keys.id :: (ScalarKind.bytes.encode entry.key ++
      (ScalarKind.bytes.encode entry.value ++ ScalarKind.int64.encode entry.created ++
        ScalarKind.int64.encode entry.lifespan))
  | .record .. => []

/-- Objects with the same contents: the order in which an unordered map lists its entries is no
part of them. -/
inductive SameContents : Object → Object → Prop
  | refl (object : Object) : SameContents object object
  | unorderedMap {a b : FiniteMap String Bytes} (same : ∀ key, a.get? key = b.get? key) :
      SameContents (.unorderedMap a) (.unorderedMap b)
  | success {a b : Object} (inner : SameContents a b) : SameContents (.success a) (.success b)

end Object

namespace Dispatch

/-- An object is written as `octets`, whose frame reads back as `received` when enough levels are
left, and is refused for its depth when not. -/
structure Travels (dispatch : Dispatch) (cancelled : Bool) (object received : Object)
    (octets : Bytes) : Prop where
  written : dispatch.encode cancelled object = ⟨.ok (), octets, []⟩
  read : ∀ {levels : Nat}, object.span ≤ levels → ∀ rest : Bytes,
    dispatch.readFrame cancelled levels (octets ++ rest) = ⟨.ok received, rest, []⟩
  tooDeep : ∀ {levels : Nat}, levels < object.span → ∀ rest : Bytes,
    (dispatch.readFrame cancelled levels (octets ++ rest)).result =
      .error (.nestingTooDeep Frame.maxNesting)

variable {dispatch : Dispatch} {services : Services} {cancelled : Bool} {object received : Object}

theorem HoldsBuiltIn.encode (holds : dispatch.HoldsBuiltIn services) {binding : Binding}
    (place : binding ∈ Binding.builtIn services) (handled : object.type ∈ binding.types) :
    dispatch.encode cancelled object = dispatch.encodeWith cancelled binding object :=
  encode_of_writer ((holds.bound binding place).writer _ handled)

theorem HoldsBuiltIn.readFrame (holds : dispatch.HoldsBuiltIn services) {binding : Binding}
    (place : binding ∈ Binding.builtIn services) (levels : Nat) (payload : Bytes) :
    dispatch.readFrame cancelled (levels + 1) (binding.id.header ++ payload) =
      binding.codec.read.run (dispatch.readFrame cancelled levels) (Frame.maxNesting - levels)
        cancelled payload :=
  readFrame_header (Binding.builtIn_valid services binding place).1
    (holds.bound binding place).reader levels payload

/-- An object without nested frames travels when its codec reads the payload that it wrote. -/
theorem HoldsBuiltIn.travels_flat (holds : dispatch.HoldsBuiltIn services) (binding : Binding)
    (place : binding ∈ Binding.builtIn services) (handled : object.type ∈ binding.types)
    (flat : object.span = 1) {payload : Bytes}
    (write : dispatch.emit cancelled (binding.codec.write object) = ⟨.ok (), payload, []⟩)
    (read : ∀ frame frames rest, binding.codec.read.run frame frames cancelled (payload ++ rest) =
      ⟨.ok received, rest, []⟩) :
    dispatch.Travels cancelled object received (binding.id.header ++ payload) where
  written := by
    rw [holds.encode place handled]
    simp only [encodeWith, write]
  read := by
    intro levels enough rest
    obtain ⟨more, rfl⟩ : ∃ more, levels = more + 1 := ⟨levels - 1, by omega⟩
    rw [List.append_assoc, holds.readFrame place, read]
  tooDeep := by
    intro levels few rest
    obtain rfl : levels = 0 := by omega
    rfl

/-- An object with one nested object travels when that one does. -/
theorem HoldsBuiltIn.travels_nested (holds : dispatch.HoldsBuiltIn services) (binding : Binding)
    (place : binding ∈ Binding.builtIn services) (handled : object.type ∈ binding.types)
    {nested innerReceived : Object} {inner : Bytes} (before after : Bytes)
    (travels : dispatch.Travels cancelled nested innerReceived inner)
    (deeper : nested.span + 1 = object.span)
    (write : dispatch.emit cancelled (binding.codec.write object) =
      ⟨.ok (), before ++ (inner ++ after), []⟩)
    {next : Object → ReadProgram Object}
    (first : ∀ frame frames input, binding.codec.read.run frame frames cancelled (before ++ input) =
      (frame input).andThen fun value rest => (next value).run frame frames cancelled rest)
    (last : ∀ frame frames rest, (next innerReceived).run frame frames cancelled (after ++ rest) =
      ⟨.ok received, rest, []⟩) :
    dispatch.Travels cancelled object received
      (binding.id.header ++ (before ++ (inner ++ after))) where
  written := by
    rw [holds.encode place handled]
    simp only [encodeWith, write]
  read := by
    intro levels enough rest
    obtain ⟨more, rfl⟩ : ∃ more, levels = more + 1 := ⟨levels - 1, by omega⟩
    rw [List.append_assoc, holds.readFrame place, List.append_assoc, first, List.append_assoc,
      travels.read (by omega), Decoding.andThen_ok, last]
  tooDeep := by
    intro levels few rest
    cases levels with
    | zero => rfl
    | succ more =>
      rw [List.append_assoc, holds.readFrame place, List.append_assoc, first, List.append_assoc]
      exact Decoding.result_andThen_error (travels.tooDeep (by omega) _) _

theorem HoldsBuiltIn.travels_address (holds : dispatch.HoldsBuiltIn services) {name : String}
    (fits : ScalarKind.text.Fits name) :
    dispatch.Travels cancelled (.address name) (.address name)
      ((WireId.internal Addresses.id).header ++ ScalarKind.text.encode name) := by
  refine holds.travels_flat ⟨.internal Addresses.id, Addresses.codec⟩ (by simp [Binding.builtIn])
    (.head _) rfl (emit_payload _) ?_
  intro frame frames rest
  exact Addresses.run_read frame frames cancelled fits rest

theorem HoldsBuiltIn.travels_key (holds : dispatch.HoldsBuiltIn services) {data : Bytes}
    (fits : ScalarKind.bytes.Fits data) :
    dispatch.Travels cancelled (.key data) (.key data)
      ((WireId.internal Keys.id).header ++ ScalarKind.bytes.encode data) := by
  refine holds.travels_flat ⟨.internal Keys.id, Keys.codec⟩ (by simp [Binding.builtIn])
    (.head _) rfl (emit_payload _) ?_
  intro frame frames rest
  exact Keys.run_read frame frames cancelled fits rest

/-- A response carries whatever travels itself. -/
theorem HoldsBuiltIn.travels_success (holds : dispatch.HoldsBuiltIn services) {octets : Bytes}
    (inner : dispatch.Travels cancelled object received octets) :
    dispatch.Travels cancelled (.success object) (.success received)
      ((WireId.internal Successes.id).header ++ (ScalarKind.bool.encode true ++ octets)) := by
  rw [← List.append_nil octets]
  refine holds.travels_nested ⟨.internal Successes.id, Successes.codec⟩
    (by simp [Binding.builtIn]) (.head _) (ScalarKind.bool.encode true) [] inner rfl ?_
    (fun _ _ _ => Successes.run_read_carrying ..) fun _ _ _ => rfl
  refine (emit_octets ..).trans ?_
  rw [emit_nest inner.written, emit_done]

theorem HoldsBuiltIn.travels_frame (holds : dispatch.HoldsBuiltIn services)
    (asGiven : services.commands = .asGiven) (cancelled : Bool) (builtIn : object.BuiltIn) :
    dispatch.Travels cancelled object (object.received services) object.frame := by
  induction builtIn with
  | unorderedMap count fits =>
    refine holds.travels_flat ⟨.internal Maps.id, Maps.codec⟩ (by simp [Binding.builtIn])
      (.head _) rfl (emit_payload _) ?_
    intro frame frames rest
    exact Maps.run_read_unordered frame frames cancelled count fits rest
  | sortedMap count fits =>
    refine holds.travels_flat ⟨.internal Maps.id, Maps.codec⟩ (by simp [Binding.builtIn])
      (.tail _ (.head _)) rfl (emit_payload _) ?_
    intro frame frames rest
    exact Maps.run_read_sorted frame frames cancelled count fits rest
  | address fits => exact holds.travels_address fits
  | @transaction number owner remote fits =>
    cases owner with
    | none =>
      refine holds.travels_flat ⟨.internal Transactions.id, Transactions.codec⟩
        (by simp [Binding.builtIn]) (.head _) rfl (emit_payload _) ?_
      intro frame frames rest
      exact Transactions.run_read_anonymous frame frames cancelled number rest
    | some name =>
      have inner : dispatch.Travels cancelled (.address name) (.address name) _ :=
        holds.travels_address (fits name rfl)
      rw [Object.frame, ← List.append_nil (Addresses.id :: _)]
      refine holds.travels_nested ⟨.internal Transactions.id, Transactions.codec⟩
        (by simp [Binding.builtIn]) (.head _)
        (ScalarKind.varint64.encode number ++ ScalarKind.bool.encode true) [] inner rfl ?_
        (fun _ _ _ => Transactions.run_read_owned ..) fun _ _ _ => rfl
      refine (emit_octets ..).trans ?_
      rw [emit_nest inner.written, emit_done]
      rfl
  | packed fits =>
    refine holds.travels_flat ⟨.internal Packed.id, Packed.codec services⟩
      (by simp [Binding.builtIn]) (.head _) rfl (emit_payload _) ?_
    intro frame frames rest
    exact Packed.run_read frame frames cancelled services.marshaller fits rest
  | emptySuccess =>
    refine holds.travels_flat ⟨.internal Successes.id, Successes.codec⟩
      (by simp [Binding.builtIn]) (.head _) rfl (emit_payload _) ?_
    intro frame frames rest
    exact Successes.run_read_empty frame frames cancelled rest
  | success _ inner => exact holds.travels_success inner
  | failure =>
    exact holds.travels_flat ⟨.internal Failures.id, Failures.codec⟩ (by simp [Binding.builtIn])
      (.head _) rfl emit_done fun _ _ _ => rfl
  | ignored =>
    exact holds.travels_flat ⟨.internal Ignored.id, Ignored.codec⟩ (by simp [Binding.builtIn])
      (.head _) rfl emit_done fun _ _ _ => rfl
  | command count fits =>
    refine holds.travels_flat ⟨.internal Commands.id, Commands.codec services⟩
      (by simp [Binding.builtIn]) (.head _) rfl (emit_payload _) ?_
    intro frame frames rest
    show (Commands.read services.commands).run frame frames cancelled _ = _
    rw [asGiven]
    exact Commands.run_read frame frames cancelled count fits rest
  | key fits => exact holds.travels_key fits
  | @immortalEntry key value keyFits valueFits =>
    have inner : dispatch.Travels cancelled (.key key) (.key key) _ := holds.travels_key keyFits
    refine holds.travels_nested ⟨.internal ImmortalEntries.id, ImmortalEntries.codec⟩
      (by simp [Binding.builtIn]) (.head _) [] (ScalarKind.bytes.encode value) inner rfl ?_
      (fun _ _ _ => ImmortalEntries.run_read ..) fun frame frames rest => ?_
    · refine (emit_nest inner.written _).trans ?_
      rw [emit_payload]
      rfl
    · exact ReadProgram.run_value_bind frame frames cancelled .bytes valueFits _ rest
  | @mortalEntry entry keyFits valueFits =>
    have inner : dispatch.Travels cancelled (.key entry.key) (.key entry.key) _ :=
      holds.travels_key keyFits
    refine holds.travels_nested ⟨.internal MortalEntries.id, MortalEntries.codec⟩
      (by simp [Binding.builtIn]) (.head _) []
      (ScalarKind.bytes.encode entry.value ++ ScalarKind.int64.encode entry.created ++
        ScalarKind.int64.encode entry.lifespan) inner rfl ?_
      (fun _ _ _ => MortalEntries.run_read ..) fun frame frames rest => ?_
    · refine (emit_nest inner.written _).trans ?_
      rw [emit_payload]
      rfl
    · rw [List.append_assoc, List.append_assoc]
      refine (ReadProgram.run_value_bind frame frames cancelled .bytes valueFits _ _).trans ?_
      rw [ReadProgram.run_value_bind _ _ _ .int64 trivial,
        ReadProgram.run_value_bind _ _ _ .int64 trivial]
      rfl

theorem HoldsBuiltIn.travels (holds : dispatch.HoldsBuiltIn services)
    (asGiven : services.commands = .asGiven) (cancelled : Bool) (builtIn : object.BuiltIn) :
    ∃ octets, dispatch.Travels cancelled object (object.received services) octets :=
  ⟨_, holds.travels_frame asGiven cancelled builtIn⟩

end Dispatch

end CodecRegistry
