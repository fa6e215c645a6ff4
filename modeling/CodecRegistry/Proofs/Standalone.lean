import Mathlib.Data.List.Induction
import CodecRegistry.Proofs.Comparison
import CodecRegistry.Proofs.Extension
import CodecRegistry.Proofs.Outcome
import CodecRegistry.Proofs.Shortest
import CodecRegistry.Proofs.Travel
import CodecRegistry.Proofs.Unextended
import CodecRegistry.Standalone

/-! Standalone buffers. The version of a buffer is looked at before its frame, and what follows the
frame is looked at last; so a buffer that was damaged says in which way, and only a buffer that is
whole gives its object back. The frame of a built-in object is read by built-in codecs alone, so
for a broken one the registry may be compared with the one that has no other codecs. -/

namespace CodecRegistry

namespace Bytes

theorem ofBigEndian_concat (front : Bytes) (byte : UInt8) :
    ofBigEndian (front ++ [byte]) = ofBigEndian front * 256 + byte.toNat := by
  simp [ofBigEndian]

/-- Octets are the big-endian form of the number that they denote. -/
theorem bigEndian_ofBigEndian (octets : Bytes) :
    bigEndian octets.length (ofBigEndian octets) = octets := by
  induction octets using List.reverseRecOn with
  | nil => rfl
  | append_singleton front byte ih =>
    have small := byte.toNat_lt
    have high : ofBigEndian (front ++ [byte]) / 256 = ofBigEndian front := by
      rw [ofBigEndian_concat]
      omega
    have low : UInt8.ofNat (ofBigEndian (front ++ [byte])) = byte := by
      rw [← UInt8.toNat_inj, UInt8.toNat_ofNat', ofBigEndian_concat]
      omega
    rw [List.length_append, List.length_singleton, bigEndian, high, low, ih]

theorem ofBigEndian_lt (octets : Bytes) : ofBigEndian octets < 256 ^ octets.length := by
  rw [← bigEndian_ofBigEndian octets, ofBigEndian_bigEndian, length_bigEndian]
  exact Nat.mod_lt _ (Nat.pow_pos (by decide))

end Bytes

/-- A number that was read stands in the first octets. -/
theorem eq_of_readFixed {width number : Nat} {input rest : Bytes}
    (read : readFixed width input = ⟨.ok number, rest⟩) :
    input = Bytes.bigEndian width number ++ rest ∧ number < 256 ^ width := by
  obtain ⟨front, taken, rfl⟩ := Reading.map_ok_iff.1 read
  obtain ⟨rfl, rfl⟩ := Reading.take_ok taken
  rw [Bytes.bigEndian_ofBigEndian]
  exact ⟨rfl, Bytes.ofBigEndian_lt front⟩

theorem ScalarKind.decode_word16 (version : UInt16) (rest : Bytes) :
    ScalarKind.word16.decode (Bytes.bigEndian 2 version.toNat ++ rest) = ⟨.ok version, rest⟩ :=
  ScalarKind.decode_encode .word16 trivial rest

/-- A version that was read stands in the first two octets. -/
theorem ScalarKind.eq_of_decode_word16 {input rest : Bytes} {version : UInt16}
    (read : ScalarKind.word16.decode input = ⟨.ok version, rest⟩) :
    input = Bytes.bigEndian 2 version.toNat ++ rest := by
  obtain ⟨number, fixed, rfl⟩ := Reading.map_ok_iff.1 read
  obtain ⟨rfl, below⟩ := eq_of_readFixed fixed
  have small : number < 2 ^ 16 := below
  rw [UInt16.toNat_ofNat', Nat.mod_eq_of_lt small]

namespace Dispatch

variable {dispatch : Dispatch} {services : Services} {object : Object}

/-- The readers of a registry that has the built-in codecs and no others. -/
def builtInReaders (services : Services) : FiniteMap FrameKey Binding where
  entries := (Binding.builtIn services).map fun binding => (binding.key, binding)
  distinct := by
    have apart := (Binding.builtIn_apart services).imp fun apart => apart.1
    rw [List.map_map]
    exact List.pairwise_map.2 apart

theorem get?_builtInReaders_iff {key : FrameKey} {reader : Binding} :
    (builtInReaders services).get? key = some reader ↔
      reader ∈ Binding.builtIn services ∧ reader.key = key := by
  rw [FiniteMap.get?_eq_some_iff]
  constructor
  · intro mem
    obtain ⟨binding, place, same⟩ := List.mem_map.1 mem
    cases same
    exact ⟨place, rfl⟩
  · rintro ⟨place, rfl⟩
    exact List.mem_map_of_mem place

/-- A registry that reads nothing but what the built-in codecs read. -/
def withoutOthers (dispatch : Dispatch) (services : Services) : Dispatch :=
  { dispatch with readers := builtInReaders services }

theorem HoldsBuiltIn.withoutOthers (holds : dispatch.HoldsBuiltIn services) :
    (dispatch.withoutOthers services).HoldsBuiltIn services where
  running := holds.running
  bound := by
    intro binding place
    exact ⟨(holds.bound binding place).writer, get?_builtInReaders_iff.2 ⟨place, rfl⟩⟩

/-- Whatever it makes of an input the registry makes of it too, unless it misses a key there, which
one of the other codecs may have. -/
theorem HoldsBuiltIn.covers (holds : dispatch.HoldsBuiltIn services) (cancelled : Bool) :
    Covers (fun error => ∃ key, error = .unknownFrame key) cancelled
      (dispatch.withoutOthers services) dispatch where
  reader := by
    intro key reader found
    obtain ⟨place, rfl⟩ := get?_builtInReaders_iff.1 found
    exact ⟨(holds.bound reader place).reader,
      (Binding.sequential_builtIn services reader place).lostWith _⟩
  miss := by
    intro key missing
    left
    refine ⟨key, ?_⟩
    unfold readerMiss
    exact if_pos holds.running

/-- The frame of a built-in object breaks off anywhere before its end. -/
theorem HoldsBuiltIn.brokeOff_frame (holds : dispatch.HoldsBuiltIn services)
    (asGiven : services.commands = .asGiven) (builtIn : object.BuiltIn)
    (shallow : object.span ≤ Frame.maxNesting) (cancelled : Bool) {front : Bytes}
    (before : front <+: object.frame) (shorter : front ≠ object.frame) :
    BrokeOff (dispatch.decode cancelled front).result := by
  have travels := holds.withoutOthers.travels_frame asGiven cancelled builtIn
  have whole := travels.read shallow []
  rw [List.append_nil] at whole
  have reads : Decoding.Local ((dispatch.withoutOthers services).decode cancelled) := by
    apply local_readFrame
    intro key reader found
    exact Binding.sequential_builtIn services reader (get?_builtInReaders_iff.1 found).1
  obtain ⟨needed, remaining, failed, less⟩ :=
    reads.brokeOff_front (congrArg Decoding.result whole) (congrArg Decoding.rest whole) before
      shorter
  have kept := (holds.covers cancelled).kept_readFrame Frame.maxNesting front
  refine ⟨needed, remaining, (kept.of_error failed ?_).1, less⟩
  simp

end Dispatch

namespace Marshaller

variable {dispatch : Dispatch} {cancelled : Bool} {version other : UInt16} {value : Object}
  {buffer frame rest : Bytes} {error : CodingError}

/-- A buffer of another version is refused for it, whatever follows. -/
theorem unpack_other (different : version ≠ other) (frame : Bytes) :
    ((versioned other).unpack dispatch cancelled
      (Bytes.bigEndian 2 version.toNat ++ frame)).1 =
        .error (.incompatibleVersion other version) := by
  simp only [unpack, ScalarKind.decode_word16, if_neg different]

/-- Otherwise its frame decides, and then what is left of it. -/
theorem unpack_own (version : UInt16) (frame : Bytes) :
    ((versioned version).unpack dispatch cancelled
      (Bytes.bigEndian 2 version.toNat ++ frame)).1 =
        (dispatch.decode cancelled frame).result.bind fun object =>
          if (dispatch.decode cancelled frame).rest = [] then .ok object
          else .error (.malformed (.trailing (dispatch.decode cancelled frame).rest.length)) := by
  simp only [unpack, ScalarKind.decode_word16, if_true]

theorem unpack_whole (given : (dispatch.decode cancelled frame).Gives value []) :
    ((versioned version).unpack dispatch cancelled
      (Bytes.bigEndian 2 version.toNat ++ frame)).1 = .ok value := by
  rw [unpack_own, given.1, given.2]
  rfl

theorem unpack_trailing (given : (dispatch.decode cancelled frame).Gives value rest)
    (something : rest ≠ []) :
    ((versioned version).unpack dispatch cancelled
      (Bytes.bigEndian 2 version.toNat ++ frame)).1 =
        .error (.malformed (.trailing rest.length)) := by
  rw [unpack_own, given.1, given.2]
  exact if_neg something

theorem unpack_refused (refused : (dispatch.decode cancelled frame).result = .error error) :
    ((versioned version).unpack dispatch cancelled
      (Bytes.bigEndian 2 version.toNat ++ frame)).1 = .error error := by
  rw [unpack_own, refused]
  rfl

/-- What breaks off before the end of the version says so. -/
theorem unpack_short (short : buffer.length < 2) :
    ((versioned version).unpack dispatch cancelled buffer).1 =
      .error (.truncated 2 buffer.length) := by
  have read : ScalarKind.word16.decode buffer = ⟨.error (.truncated 2 buffer.length), buffer⟩ := by
    simp only [ScalarKind.decode, readFixed, Reading.take, Bytes.split?_eq_none_iff.2 short]
    rfl
  simp only [unpack, read]

/-- A buffer that is broken off breaks off in its version or in its frame. -/
theorem brokeOff_unpack
    (breaks : ∀ front, front <+: frame → front ≠ frame →
      BrokeOff (dispatch.decode cancelled front).result)
    {front : Bytes} (before : front <+: Bytes.bigEndian 2 version.toNat ++ frame)
    (shorter : front ≠ Bytes.bigEndian 2 version.toNat ++ frame) :
    BrokeOff ((versioned version).unpack dispatch cancelled front).1 := by
  by_cases short : front.length < 2
  · exact ⟨2, front.length, unpack_short short, short⟩
  · have versionLength := Bytes.length_bigEndian 2 version.toNat
    obtain ⟨later, rfl⟩ : Bytes.bigEndian 2 version.toNat <+: front :=
      List.prefix_of_prefix_length_le (List.prefix_append ..) before (by omega)
    have within := (List.prefix_append_right_inj _).1 before
    have different : later ≠ frame := fun same => shorter (same ▸ rfl)
    obtain ⟨needed, remaining, refused, less⟩ := breaks later within different
    exact ⟨needed, remaining, unpack_refused refused, less⟩

/-- Whatever buffer is accepted is its version and one frame. -/
theorem unpack_ok
    (accepted : ((versioned version).unpack dispatch cancelled buffer).1 = .ok value) :
    ∃ frame, buffer = Bytes.bigEndian 2 version.toNat ++ frame ∧
      (dispatch.decode cancelled frame).Gives value [] := by
  cases read : ScalarKind.word16.decode buffer with
  | mk result frame =>
    cases result with
    | error error =>
      simp only [unpack, read] at accepted
      cases accepted
    | ok found =>
      obtain rfl := ScalarKind.eq_of_decode_word16 read
      by_cases same : found = version
      · subst same
        refine ⟨frame, rfl, ?_⟩
        rw [unpack_own] at accepted
        cases done : (dispatch.decode cancelled frame).result with
        | error error =>
          rw [done] at accepted
          cases accepted
        | ok object =>
          rw [done] at accepted
          by_cases nothing : (dispatch.decode cancelled frame).rest = []
          · cases (if_pos nothing).symm.trans accepted
            exact ⟨done, nothing⟩
          · cases (if_neg nothing).symm.trans accepted
      · rw [unpack_other same] at accepted
        cases accepted

end Marshaller

namespace Dispatch

variable {dispatch : Dispatch} {services : Services}

/-- Buffers of a registry with the built-in codecs. The buffer of a built-in object gives it back;
with octets behind it, broken off or unpacked for another version it is refused for just that. And
only a buffer that is its version and one frame gives anything. -/
theorem HoldsBuiltIn.unpack_pack (holds : dispatch.HoldsBuiltIn services)
    (asGiven : services.commands = .asGiven) (version other : UInt16) (packing unpacking : Bool) :
    let unpack (version : UInt16) (buffer : Bytes) :=
      ((Marshaller.versioned version).unpack dispatch unpacking buffer).1
    (∀ object : Object, object.BuiltIn → object.span ≤ Frame.maxNesting →
      ∃ buffer, (Marshaller.versioned version).pack dispatch packing object = (.ok buffer, []) ∧
        unpack version buffer = .ok (object.received services) ∧
        (∀ behind, behind ≠ [] →
          unpack version (buffer ++ behind) = .error (.malformed (.trailing behind.length))) ∧
        (∀ front, front <+: buffer → front ≠ buffer → ∃ needed remaining,
          unpack version front = .error (.truncated needed remaining) ∧ remaining < needed) ∧
        (version ≠ other → ∀ behind,
          unpack other (buffer ++ behind) = .error (.incompatibleVersion other version))) ∧
    ∀ buffer value, unpack version buffer = .ok value →
      ∃ frame, buffer = Bytes.bigEndian 2 version.toNat ++ frame ∧
        (dispatch.decode unpacking frame).Gives value [] := by
  intro unpack
  refine ⟨fun object builtIn shallow => ?_, fun buffer value => Marshaller.unpack_ok⟩
  have travels (cancelled : Bool) := holds.travels_frame asGiven cancelled builtIn
  have given (behind : Bytes) :
      (dispatch.decode unpacking (object.frame ++ behind)).Gives (object.received services)
        behind := by
    rw [decode, (travels unpacking).read shallow]
    exact ⟨rfl, rfl⟩
  refine ⟨Bytes.bigEndian 2 version.toNat ++ object.frame, ?_, ?_, ?_, ?_, ?_⟩
  · rw [Marshaller.pack, (travels packing).written]
    rfl
  · have whole := given []
    rw [List.append_nil] at whole
    exact Marshaller.unpack_whole whole
  · intro behind something
    rw [List.append_assoc]
    exact Marshaller.unpack_trailing (given behind) something
  · intro front before shorter
    refine Marshaller.brokeOff_unpack (fun front before shorter => ?_) before shorter
    exact holds.brokeOff_frame asGiven builtIn shallow unpacking before shorter
  · intro different behind
    rw [List.append_assoc]
    exact Marshaller.unpack_other different _

/-- A transaction inside a response. -/
theorem HoldsBuiltIn.unpack_pack_standard :
    let dispatch := (Registry.empty.start .bare .standard).registry.dispatch
    let object : Object := .success (.transaction 7 (some "n") false)
    let unpack (version : UInt16) (buffer : Bytes) :=
      ((Marshaller.versioned version).unpack dispatch false buffer).1
    ∃ buffer, (Marshaller.versioned 1).pack dispatch true object = (.ok buffer, []) ∧
      unpack 1 buffer = .ok (.success (.transaction 7 (some "n") true)) ∧
      unpack 1 (buffer ++ [0, 0]) = .error (.malformed (.trailing 2)) ∧
      (∀ front, front <+: buffer → front ≠ buffer → ∃ needed remaining,
        unpack 1 front = .error (.truncated needed remaining) ∧ remaining < needed) ∧
      unpack 2 (buffer ++ [0, 0]) = .error (.incompatibleVersion 2 1) := by
  intro dispatch object unpack
  have builtIn : object.BuiltIn := .success (.transaction (by decide +kernel))
  obtain ⟨packs, -⟩ :=
    HoldsBuiltIn.unpack_pack Registry.holdsBuiltIn_standard rfl 1 2 true false
  obtain ⟨buffer, packed, whole, trailing, broken, different⟩ :=
    packs object builtIn (by decide +kernel)
  exact ⟨buffer, packed, whole, trailing [0, 0] (by simp), broken, different (by decide) [0, 0]⟩

end Dispatch

end CodecRegistry
