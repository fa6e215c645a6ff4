import CodecRegistry.Proofs.Consistency
import CodecRegistry.Proofs.Hops
import CodecRegistry.Proofs.Lookup
import CodecRegistry.Proofs.Normal
import CodecRegistry.Proofs.Padded
import CodecRegistry.Proofs.Registration

/-! The hash of a packed value. It is computed once, when the value is packed, and from then on
travels behind the bytes; who reads a value takes over the hash that came with it, while equality
looks at the bytes alone. So equal values have equal hashes where every hash on the way was that of
the bytes in front of it, and a frame with another hash makes a value that equals the others and
has a hash of its own. -/

namespace CodecRegistry

open Codec PackedValue

/-- How a packed value stands at the front of an input, inside so many responses: its bytes behind
any form of their number, and the hash in four octets behind them. -/
inductive PackedValue.Carried (raw : Bytes) (hash : UInt32) (rest : Bytes) : Nat → Bytes → Prop
  | frame {written : Bytes} (sized : Sized written raw) :
      Carried raw hash rest 0 (Packed.id :: (written ++ (Bytes.bigEndian 4 hash.toNat ++ rest)))
  | response {depth : Nat} {input : Bytes} (inner : Carried raw hash rest depth input) :
      Carried raw hash rest (depth + 1) (Successes.id :: 1 :: input)

/-- A value that was packed, or was read from an input in which its hash was that of the bytes. -/
inductive PackedValue.Genuine (value : PackedValue) : Prop
  | packed {object : Object} {marshaller : Marshaller} {dispatch : Dispatch} {cancelled : Bool}
      (made : (ofObject object marshaller dispatch cancelled).1 = .ok value) : Genuine value
  | read {dispatch : Dispatch} {services : Services} {cancelled : Bool} {raw rest input : Bytes}
      {depth : Nat} {object : Object} (holds : dispatch.HoldsBuiltIn services)
      (carried : Carried raw (contentHash raw) rest depth input)
      (decoded : (dispatch.decode cancelled input).result = .ok object)
      (inside : object.packedInside = .ok value) : Genuine value

namespace ScalarKind

theorem decode_int32 (word : UInt32) (rest : Bytes) :
    int32.decode (Bytes.bigEndian 4 word.toNat ++ rest) = ⟨.ok word.toInt32, rest⟩ :=
  decode_encode .int32 trivial rest

/-- A word that was read stands in the first four octets. -/
theorem eq_of_decode_int32 {input rest : Bytes} {word : Int32}
    (read : int32.decode input = ⟨.ok word, rest⟩) :
    input = Bytes.bigEndian 4 word.toUInt32.toNat ++ rest := by
  obtain ⟨number, fixed, rfl⟩ := Reading.map_ok_iff.1 read
  obtain ⟨rfl, below⟩ := eq_of_readFixed fixed
  have small : number < 2 ^ 32 := below
  show _ = Bytes.bigEndian 4 (UInt32.ofNat number).toNat ++ rest
  rw [UInt32.toNat_ofNat', Nat.mod_eq_of_lt small]

theorem eq_of_decode_bool {input rest : Bytes} {value : Bool}
    (read : bool.decode input = ⟨.ok value, rest⟩) : input = bool.encode value ++ rest := by
  obtain ⟨marker, middle, fixed, marked⟩ := Reading.andThen_ok_iff.1 read
  obtain ⟨rfl, -⟩ := eq_of_readFixed fixed
  split at marked
  · cases marked
    rfl
  · cases marked
    rfl
  · cases marked

end ScalarKind

namespace Codec

variable {frame : Bytes → Decoding Object} {frames : Nat} {flag : Bool} {input rest : Bytes}
  {object : Object}

open ReadProgram

theorem Packed.run_read_carried (frame : Bytes → Decoding Object) (frames : Nat) (flag : Bool)
    (marshaller : Marshaller) {written raw : Bytes} (sized : Sized written raw) (hash : UInt32)
    (rest : Bytes) :
    (read marshaller).run frame frames flag
        (written ++ (Bytes.bigEndian 4 hash.toNat ++ rest)) =
      ⟨.ok (.packed ⟨raw, hash, marshaller⟩), rest, []⟩ := by
  have rawRead : ScalarKind.bytes.decode _ = _ :=
    sized.readSized (Bytes.bigEndian 4 hash.toNat ++ rest)
  rw [read, run_decoded_bind _ _ _ rawRead,
    run_decoded_bind _ _ _ (ScalarKind.decode_int32 hash rest)]
  rfl

/-- Whatever is read, it stands in the payload. -/
theorem Packed.carried_of_read {marshaller : Marshaller}
    (gives : ((read marshaller).run frame frames flag input).Gives object rest) :
    ∃ raw hash written, object = .packed ⟨raw, hash, marshaller⟩ ∧ Sized written raw ∧
      input = written ++ (Bytes.bigEndian 4 hash.toNat ++ rest) := by
  obtain ⟨raw, middle, filled, gives⟩ := gives_bind_iff.1 gives
  obtain ⟨hash, left, hashed, gives⟩ := gives_bind_iff.1 gives
  obtain ⟨rfl, rfl⟩ := gives_pure_iff.1 gives
  obtain ⟨written, sized, rfl⟩ := sized_of_readSized ((gives_value_iff .bytes).1 filled)
  rw [ScalarKind.eq_of_decode_int32 ((gives_value_iff .int32).1 hashed)]
  exact ⟨raw, hash.toUInt32, written, rfl, sized, rfl⟩

/-- A response that was read carries a frame, unless it is empty. -/
theorem Successes.carried_of_read (gives : (read.run frame frames flag input).Gives object rest) :
    object = .emptySuccess ∨
      ∃ carried inner, object = .success carried ∧ input = 1 :: inner ∧
        (frame inner).Gives carried rest := by
  obtain ⟨carrying, inner, marked, gives⟩ := gives_bind_iff.1 gives
  have octet := ScalarKind.eq_of_decode_bool ((gives_value_iff .bool).1 marked)
  cases carrying with
  | false =>
    obtain ⟨rfl, rfl⟩ := gives_pure_iff.1 gives
    exact .inl rfl
  | true =>
    obtain ⟨carried, left, nested, gives⟩ := gives_bind_iff.1 gives
    obtain ⟨rfl, rfl⟩ := gives_pure_iff.1 gives
    exact .inr ⟨carried, inner, rfl, octet, gives_nested_iff.1 nested⟩

theorem Commands.command_of_read {factory : CommandFactory}
    (gives : ((read factory).run frame frames flag input).Gives object rest) :
    ∃ command, object = .command command := by
  obtain ⟨id, _, _, gives⟩ := gives_bind_iff.1 gives
  obtain ⟨count, _, _, gives⟩ := gives_bind_iff.1 gives
  obtain ⟨parameters, _, _, gives⟩ := gives_bind_iff.1 gives
  obtain ⟨command, _, _, gives⟩ := gives_bind_iff.1 gives
  exact ⟨command, (gives_pure_iff.1 gives).1.symm⟩

end Codec

theorem Frame.eq_of_readKey_internal {input payload : Bytes} {id : UInt8}
    (header : readKey input = ⟨.ok (.internal id), payload⟩) : input = id :: payload := by
  rcases header_or_not input with ⟨key, behind, named⟩ | ⟨error, behind, absent⟩
  · rw [named.readKey] at header
    cases named with
    | @internal other payload plain =>
      obtain ⟨same, rfl⟩ := Reading.mk.inj header
      have word : other.toUInt32 = id.toUInt32 := congrArg FrameKey.word (Except.ok.inj same)
      rw [UInt8.toUInt32_inj.1 word]
    | @foreign number payload other read inRange =>
      obtain ⟨same, -⟩ := Reading.mk.inj header
      exact absurd (Except.ok.inj same).symm (WireId.key_internal_ne_foreign id other)
  · rw [absent.readKey] at header
    cases header

theorem Object.packedInside_success (object : Object) :
    (success object).packedInside = object.packedInside := by
  cases object <;> rfl

namespace Dispatch

variable {dispatch : Dispatch} {services : Services} {cancelled : Bool} {levels depth : Nat}
  {raw rest input : Bytes} {hash : UInt32} {object : Object} {value : PackedValue}

/-! ## What is read -/

theorem HoldsBuiltIn.readFrame_packed (holds : dispatch.HoldsBuiltIn services) (levels : Nat)
    (payload : Bytes) :
    dispatch.readFrame cancelled (levels + 1) (Packed.id :: payload) =
      (Packed.read services.marshaller).run (dispatch.readFrame cancelled levels)
        (Frame.maxNesting - levels) cancelled payload :=
  holds.readFrame (Binding.packed_mem_builtIn services) levels payload

theorem HoldsBuiltIn.readFrame_response (holds : dispatch.HoldsBuiltIn services) (levels : Nat)
    (input : Bytes) :
    dispatch.readFrame cancelled (levels + 1) (Successes.id :: 1 :: input) =
      (dispatch.readFrame cancelled levels input).andThen fun value rest =>
        ⟨.ok (.success value), rest, []⟩ :=
  (holds.readFrame (Binding.successes_mem_builtIn services) levels (1 :: input)).trans
    (Successes.run_read_carrying ..)

/-- The value comes out as it stands there. -/
theorem HoldsBuiltIn.readFrame_carried (holds : dispatch.HoldsBuiltIn services)
    (carried : Carried raw hash rest depth input) (shallow : depth < levels) :
    dispatch.readFrame cancelled levels input =
      ⟨.ok (.responses depth (some (.packed ⟨raw, hash, services.marshaller⟩))), rest, []⟩ := by
  induction carried generalizing levels with
  | frame sized =>
    obtain ⟨more, rfl⟩ : ∃ more, levels = more + 1 := ⟨levels - 1, by omega⟩
    rw [holds.readFrame_packed, Packed.run_read_carried _ _ _ _ sized]
    rfl
  | @response depth input inner ih =>
    obtain ⟨more, rfl⟩ : ∃ more, levels = more + 1 := ⟨levels - 1, by omega⟩
    rw [holds.readFrame_response, ih (Nat.lt_of_succ_lt_succ shallow), Decoding.andThen_ok,
      Object.responses_succ]

theorem HoldsBuiltIn.readFrame_carried_tooDeep (holds : dispatch.HoldsBuiltIn services)
    (carried : Carried raw hash rest depth input) (deep : levels ≤ depth) :
    (dispatch.readFrame cancelled levels input).result =
      .error (.nestingTooDeep Frame.maxNesting) := by
  induction carried generalizing levels with
  | frame sized =>
    obtain rfl : levels = 0 := Nat.le_zero.1 deep
    rfl
  | @response depth input inner ih =>
    cases levels with
    | zero => rfl
    | succ levels =>
      rw [holds.readFrame_response]
      exact Decoding.result_andThen_error (ih (Nat.le_of_succ_le_succ deep)) _

/-- What is read from where a value stands is that value. -/
theorem HoldsBuiltIn.eq_of_carried (holds : dispatch.HoldsBuiltIn services)
    (carried : Carried raw hash rest depth input)
    (decoded : (dispatch.decode cancelled input).result = .ok object)
    (inside : object.packedInside = .ok value) : value = ⟨raw, hash, services.marshaller⟩ := by
  rcases Nat.lt_or_ge depth Frame.maxNesting with shallow | deep
  · rw [decode, holds.readFrame_carried carried shallow] at decoded
    cases decoded
    rw [Object.packedInside_responses] at inside
    exact (Except.ok.inj inside).symm
  · rw [decode, holds.readFrame_carried_tooDeep carried deep] at decoded
    cases decoded

/-- Whatever is read by built-in codecs alone, it stands there. -/
theorem OnlyBuiltIn.carried_of_readFrame (only : dispatch.OnlyBuiltIn services)
    (consistent : dispatch.Consistent)
    (gives : (dispatch.readFrame cancelled levels input).Gives object rest)
    (inside : object.packedInside = .ok value) :
    ∃ depth < levels, Carried value.raw value.hash rest depth input := by
  induction levels generalizing input object rest with
  | zero => cases gives.1
  | succ levels ih =>
    obtain ⟨reader, payload, ⟨key, header, found⟩, gives⟩ := exists_opens_of_gives gives
    have atKey := (consistent.keyed found).1
    have builtIn := only.reader found
    simp only [Binding.builtIn, List.mem_cons, List.not_mem_nil, or_false] at builtIn
    rcases builtIn with rfl | rfl | rfl | rfl | rfl | rfl | rfl | rfl | rfl | rfl | rfl
    · obtain ⟨kind, entries, -, -, -, rfl | rfl⟩ := Maps.gives_read gives <;> cases inside
    · obtain ⟨name, rfl, -⟩ := Addresses.gives_read gives
      cases inside
    · obtain ⟨number, behind, -, ⟨rfl, -⟩ | ⟨name, rfl, -⟩⟩ := Transactions.gives_read gives <;>
        cases inside
    · rw [atKey] at header
      obtain ⟨raw, hash, written, rfl, sized, rfl⟩ := Packed.carried_of_read gives
      cases inside
      rw [Frame.eq_of_readKey_internal header]
      exact ⟨0, Nat.succ_pos _, .frame sized⟩
    · rw [atKey] at header
      rcases Successes.carried_of_read gives with rfl | ⟨carried, inner, rfl, rfl, nested⟩
      · cases inside
      · rw [Object.packedInside_success] at inside
        obtain ⟨depth, shallow, stands⟩ := ih nested inside
        rw [Frame.eq_of_readKey_internal header]
        exact ⟨depth + 1, Nat.succ_lt_succ shallow, .response stands⟩
    · obtain ⟨rfl, -⟩ := ReadProgram.gives_pure_iff.1 gives
      cases inside
    · obtain ⟨rfl, -⟩ := ReadProgram.gives_pure_iff.1 gives
      cases inside
    · obtain ⟨command, rfl⟩ := Commands.command_of_read gives
      cases inside
    · obtain ⟨key, data, behind, rfl, -⟩ := ImmortalEntries.gives_read gives
      cases inside
    · obtain ⟨entry, behind, rfl, -⟩ := MortalEntries.gives_read gives
      cases inside
    · obtain ⟨data, rfl, -⟩ := Keys.gives_read gives
      cases inside

/-! ## What is written -/

theorem HoldsBuiltIn.encode_packed (holds : dispatch.HoldsBuiltIn services)
    (value : PackedValue) :
    dispatch.encode cancelled (.packed value) =
      ⟨.ok (), Packed.id :: (writeSized value.raw ++ Bytes.bigEndian 4 value.hash.toNat), []⟩ := by
  have written : dispatch.emit cancelled ((Packed.codec services).write (.packed value)) =
      ⟨.ok (), writeSized value.raw ++ Bytes.bigEndian 4 value.hash.toNat, []⟩ := emit_payload _
  rw [holds.encode (Binding.packed_mem_builtIn services) (.head _), encodeWith, written]
  rfl

theorem HoldsBuiltIn.encode_success (holds : dispatch.HoldsBuiltIn services) {octets : Bytes}
    (inner : dispatch.encode cancelled object = ⟨.ok (), octets, []⟩) :
    dispatch.encode cancelled (.success object) =
      ⟨.ok (), Successes.id :: 1 :: octets, []⟩ := by
  have written : dispatch.emit cancelled (Successes.codec.write (.success object)) =
      ⟨.ok (), 1 :: octets, []⟩ := by
    refine (emit_octets ..).trans ?_
    rw [emit_nest inner, emit_done, List.append_nil]
    rfl
  rw [holds.encode (Binding.successes_mem_builtIn services) (.head _), encodeWith, written]
  rfl

/-- A value is written with its bytes and the hash that it has. -/
theorem HoldsBuiltIn.encode_carried (holds : dispatch.HoldsBuiltIn services)
    (fits : value.raw.length < 2 ^ 64) (depth : Nat) :
    ∃ octets, dispatch.encode cancelled (.responses depth (some (.packed value))) =
        ⟨.ok (), octets, []⟩ ∧
      ∀ rest, Carried value.raw value.hash rest depth (octets ++ rest) := by
  induction depth with
  | zero =>
    refine ⟨_, holds.encode_packed value, fun rest => ?_⟩
    rw [List.cons_append, List.append_assoc]
    exact .frame (sized_writeSized fits)
  | succ depth ih =>
    obtain ⟨octets, written, stands⟩ := ih
    rw [Object.responses_succ]
    exact ⟨_, holds.encode_success written, fun rest => .response (stands rest)⟩

end Dispatch

/-! ## Hashes -/

theorem PackedValue.hash_of_ofObject {object : Object} {marshaller : Marshaller}
    {dispatch : Dispatch} {cancelled : Bool} {value : PackedValue}
    (made : (ofObject object marshaller dispatch cancelled).1 = .ok value) :
    value.hash = contentHash value.raw := by
  rw [ofObject] at made
  generalize marshaller.pack dispatch cancelled object = packing at made
  obtain ⟨buffer, log⟩ := packing
  cases buffer with
  | error error => cases made
  | ok raw =>
    cases made
    rfl

theorem PackedValue.Genuine.hash_eq {value : PackedValue} (genuine : value.Genuine) :
    value.hash = contentHash value.raw := by
  cases genuine with
  | packed made => exact hash_of_ofObject made
  | read holds carried decoded inside => rw [holds.eq_of_carried carried decoded inside]

namespace Dispatch

variable {dispatch : Dispatch} {services : Services}

/-- Equal values have equal hashes, those of their bytes, if they were packed or were read where
the hash of the bytes stood behind them. A value that stands in an input has, when it is read, the
hash that stands there, whatever that is; when built-in codecs alone read, values come from nowhere
else; and a value is written so that its bytes and its hash stand in the frame. -/
theorem HoldsBuiltIn.equal_values_hash_alike (holds : dispatch.HoldsBuiltIn services)
    (cancelled : Bool) :
    (∀ value : PackedValue, value.Genuine → value.hash = PackedValue.contentHash value.raw) ∧
    (∀ a b : PackedValue, a.Genuine → b.Genuine → a.sameAs b = true → a.hash = b.hash) ∧
    (∀ raw hash rest depth input, PackedValue.Carried raw hash rest depth input → depth < 128 →
      dispatch.decode cancelled input =
        ⟨.ok (.responses depth (some (.packed ⟨raw, hash, services.marshaller⟩))), rest, []⟩) ∧
    (dispatch.OnlyBuiltIn services → dispatch.Consistent → ∀ input object value,
      (dispatch.decode cancelled input).result = .ok object → object.packedInside = .ok value →
        ∃ depth < 128, PackedValue.Carried value.raw value.hash
          (dispatch.decode cancelled input).rest depth input) ∧
    ∀ value depth, value.raw.length < 2 ^ 64 →
      ∃ octets, dispatch.encode cancelled (.responses depth (some (.packed value))) =
          ⟨.ok (), octets, []⟩ ∧
        ∀ rest, PackedValue.Carried value.raw value.hash rest depth (octets ++ rest) := by
  refine ⟨fun value genuine => genuine.hash_eq, fun a b first second same => ?_,
    fun raw hash rest depth input carried shallow => holds.readFrame_carried carried shallow,
    fun only consistent input object value decoded inside => ?_,
    fun value depth fits => holds.encode_carried fits depth⟩
  · have bytes : a.raw = b.raw := of_decide_eq_true same
    rw [first.hash_eq, second.hash_eq, bytes]
  · exact only.carried_of_readFrame consistent ⟨decoded, rfl⟩ inside

/-- A value that was packed, and its copy as another node would read it. -/
theorem HoldsBuiltIn.equal_values_hash_alike_copy :
    let dispatch := (Registry.empty.start .bare .standard).registry.dispatch
    let frame : Bytes := [9, 3, 0, 1, 14, 0, 0, 0x74, 0x8C]
    ∃ packed copy : PackedValue,
      (PackedValue.ofObject .failure (.versioned 1) dispatch true).1 = .ok packed ∧
      dispatch.decode true (frame ++ [5]) = ⟨.ok (.packed copy), [5], []⟩ ∧
      packed.sameAs copy = true ∧ packed.hash = copy.hash ∧
      copy.hash = PackedValue.contentHash copy.raw := by
  intro dispatch frame
  have holds : dispatch.HoldsBuiltIn .bare := Registry.holdsBuiltIn_standard
  obtain ⟨hashed, alike, reads, -, -⟩ := HoldsBuiltIn.equal_values_hash_alike holds true
  have sized : Sized [3, 0, 1, 14] [0, 1, 14] :=
    ⟨[3], ⟨3, rfl, Varint.decode_eq_iff.1 rfl⟩, rfl⟩
  have carried : PackedValue.Carried [0, 1, 14] (PackedValue.contentHash [0, 1, 14]) [5] 0
      (frame ++ [5]) := .frame sized
  have decoded := reads _ _ _ _ _ carried (by decide)
  let packed := PackedValue.ofRaw [0, 1, 14] (.versioned 1)
  have made : (PackedValue.ofObject .failure (.versioned 1) dispatch true).1 = .ok packed := by
    have written : dispatch.encode true .failure = ⟨.ok (), [14], []⟩ :=
      (holds.travels_frame rfl true .failure).written
    rw [PackedValue.ofObject, Marshaller.pack, written]
    rfl
  have result := congrArg Decoding.result decoded
  have genuine := PackedValue.Genuine.read holds carried result rfl
  exact ⟨packed, _, made, decoded, rfl, alike _ _ (.packed made) genuine rfl, hashed _ genuine⟩

/-- Two frames with the same bytes and different hashes. -/
theorem transmitted_hash_believed :
    let dispatch := (Registry.empty.start .bare .standard).registry.dispatch
    ∃ a b : PackedValue, dispatch.isRunning = true ∧
      dispatch.decode true [9, 1, 1, 0, 0, 0, 7] = ⟨.ok (.packed a), [], []⟩ ∧
      dispatch.decode true [9, 1, 1, 0, 0, 0, 8] = ⟨.ok (.packed b), [], []⟩ ∧
      a.sameAs b = true ∧ a.hash ≠ b.hash ∧ a.hash ≠ PackedValue.contentHash a.raw := by
  intro dispatch
  have holds : dispatch.HoldsBuiltIn .bare := Registry.holdsBuiltIn_standard
  have sized : Sized [1, 1] [1] := ⟨[1], ⟨1, rfl, Varint.decode_eq_iff.1 rfl⟩, rfl⟩
  have reads (hash : UInt32) :
      dispatch.decode true (9 :: ([1, 1] ++ (Bytes.bigEndian 4 hash.toNat ++ []))) =
        ⟨.ok (.packed ⟨[1], hash, Services.bare.marshaller⟩), [], []⟩ :=
    holds.readFrame_carried (.frame sized) (by decide)
  exact ⟨⟨[1], 7, _⟩, ⟨[1], 8, _⟩, holds.running, reads 7, reads 8, rfl, by decide, by decide⟩

end Dispatch

end CodecRegistry
