import CodecRegistry.Proofs.Extension
import CodecRegistry.Proofs.Outcome

/-! How a frame finds its reader. The header is read first, and it names a key or says what is wrong
with it. A key without a reader is the stream's fault on a running registry and the registry's own
on a stopped one, and codecs that read one thing after the other hand the report of it out of every
frame they opened. -/

namespace CodecRegistry

theorem Varint.refused_decode {width : Width} {input rest : Bytes} {error : CodingError}
    (read : decode width input = ⟨.error error, rest⟩) :
    error = .truncated 1 0 ∨ error = .varintOverflow width.bits := by
  suffices from_any : ∀ soFar, decodeFrom width soFar input = ⟨.error error, rest⟩ →
      error = .truncated 1 0 ∨ error = .varintOverflow width.bits from from_any _ read
  clear read
  intro soFar read
  induction input generalizing soFar with
  | nil =>
    cases read
    exact .inl rfl
  | cons byte later ih =>
    simp only [decodeFrom] at read
    split at read
    · exact ih _ read
    · cases read
    · cases read
      exact .inr rfl

namespace Frame

/-- The header at the front of the input names a key: the byte of an internal id, or the sentinel
and the number of a foreign id. The payload stands behind it. -/
inductive Header : Bytes → FrameKey → Bytes → Prop
  | internal {id : UInt8} {payload : Bytes} (plain : id < 255) :
      Header (id :: payload) (.internal id) payload
  | foreign {number payload : Bytes} {id : UInt32}
      (read : ScalarKind.varint32.decode number = ⟨.ok id, payload⟩) (inRange : id ≤ 0x7fffffff) :
      Header (255 :: number) (.foreign id) payload

/-- No header is at the front of the input. -/
inductive NoHeader : Bytes → CodingError → Bytes → Prop
  | empty : NoHeader [] (.truncated 1 0) []
  | broken {number rest : Bytes}
      (read : ScalarKind.varint32.decode number = ⟨.error (.truncated 1 0), rest⟩) :
      NoHeader (255 :: number) (.truncated 1 0) rest
  | overlong {number rest : Bytes}
      (read : ScalarKind.varint32.decode number = ⟨.error (.varintOverflow 32), rest⟩) :
      NoHeader (255 :: number) (.varintOverflow 32) rest
  | reserved {number rest : Bytes} {id : UInt32}
      (read : ScalarKind.varint32.decode number = ⟨.ok id, rest⟩) (outside : 0x7fffffff < id) :
      NoHeader (255 :: number) (.malformed (.foreignId id)) rest

variable {input payload rest : Bytes} {key : FrameKey} {error : CodingError}

theorem decode_byte (byte : UInt8) (rest : Bytes) :
    ScalarKind.byte.decode (byte :: rest) = ⟨.ok byte, rest⟩ :=
  ScalarKind.decode_encode .byte trivial rest

theorem readKey_plain {id : UInt8} (plain : id < 255) (payload : Bytes) :
    readKey (id :: payload) = ⟨.ok (.internal id), payload⟩ := by
  rw [readKey, decode_byte]
  exact if_neg (UInt8.ne_of_lt plain)

theorem readKey_sentinel (number : Bytes) :
    readKey (255 :: number) = (ScalarKind.varint32.decode number).andThen fun id rest =>
      if id ≤ 0x7fffffff then ⟨.ok (.foreign id), rest⟩
      else ⟨.error (.malformed (.foreignId id)), rest⟩ := by
  rw [readKey, decode_byte]
  rfl

theorem Header.readKey (header : Header input key payload) :
    readKey input = ⟨.ok key, payload⟩ := by
  cases header with
  | internal plain => exact readKey_plain plain payload
  | foreign read inRange =>
    rw [readKey_sentinel, read]
    exact if_pos inRange

theorem NoHeader.readKey (absent : NoHeader input error rest) :
    readKey input = ⟨.error error, rest⟩ := by
  cases absent with
  | empty => rfl
  | broken read =>
    rw [readKey_sentinel, read]
    rfl
  | overlong read =>
    rw [readKey_sentinel, read]
    rfl
  | reserved read outside =>
    rw [readKey_sentinel, read]
    exact if_neg (UInt32.not_le.2 outside)

theorem refused_varint32 (read : ScalarKind.varint32.decode input = ⟨.error error, rest⟩) :
    error = .truncated 1 0 ∨ error = .varintOverflow 32 := by
  rw [ScalarKind.decode] at read
  cases number : Varint.decode .w32 input with
  | mk result left =>
    rw [number] at read
    cases result with
    | ok value => cases read
    | error cause =>
      cases read
      exact Varint.refused_decode number

/-- There is no third case. -/
theorem header_or_not (input : Bytes) :
    (∃ key payload, Header input key payload) ∨ ∃ error rest, NoHeader input error rest := by
  cases input with
  | nil => exact .inr ⟨_, _, .empty⟩
  | cons byte number =>
    have small : byte ≤ 255 := UInt8.le_iff_toNat_le.2 (Nat.le_of_lt_succ byte.toNat_lt)
    rcases UInt8.lt_or_eq_of_le small with plain | rfl
    · exact .inl ⟨_, _, .internal plain⟩
    · cases read : ScalarKind.varint32.decode number with
      | mk result rest =>
        cases result with
        | ok id =>
          by_cases inRange : id ≤ 0x7fffffff
          · exact .inl ⟨_, _, .foreign read inRange⟩
          · exact .inr ⟨_, _, .reserved read (UInt32.not_le.1 inRange)⟩
        | error error =>
          rcases refused_varint32 read with rfl | rfl
          · exact .inr ⟨_, _, .broken read⟩
          · exact .inr ⟨_, _, .overlong read⟩

end Frame

/-- What a decoding was refused for, and what it left. -/
def Decoding.Fails {α : Type} (decoding : Decoding α) (error : CodingError) (rest : Bytes) : Prop :=
  decoding.result = .error error ∧ decoding.rest = rest

namespace ReadProgram

variable {α : Type} {frame : Bytes → Decoding Object} {frames : Nat} {flag : Bool}

/-- Run on the first input, a program comes to read the frame at the front of the second. -/
inductive Meets (frame : Bytes → Decoding Object) (frames : Nat) (flag : Bool) :
    ReadProgram α → Bytes → Bytes → Prop
  | here {next : Except CodingError Object → ReadProgram α} {inner : Bytes} :
      Meets frame frames flag (object next) inner inner
  | scalar {kind : ScalarKind} {next : Except CodingError kind.Carrier → ReadProgram α}
      {input rest inner : Bytes} {value : kind.Carrier}
      (read : kind.decode input = ⟨.ok value, rest⟩)
      (later : Meets frame frames flag (next (.ok value)) rest inner) :
      Meets frame frames flag (scalar kind next) input inner
  | object {next : Except CodingError Object → ReadProgram α} {input rest inner : Bytes}
      {value : Object} (read : (frame input).Gives value rest)
      (later : Meets frame frames flag (next (.ok value)) rest inner) :
      Meets frame frames flag (object next) input inner
  | depth {next : Nat → ReadProgram α} {input inner : Bytes}
      (later : Meets frame frames flag (next frames) input inner) :
      Meets frame frames flag (depth next) input inner
  | remaining {next : Nat → ReadProgram α} {input inner : Bytes}
      (later : Meets frame frames flag (next input.length) input inner) :
      Meets frame frames flag (remaining next) input inner
  | cancelled {next : Bool → ReadProgram α} {input inner : Bytes}
      (later : Meets frame frames flag (next flag) input inner) :
      Meets frame frames flag (cancelled next) input inner

/-- A program that reads one thing after the other is refused for the first frame that is, and
reads no further. -/
theorem Sequential.fails {program : ReadProgram α} (sequential : program.Sequential)
    {input inner rest : Bytes} (meets : program.Meets frame frames flag input inner)
    {error : CodingError} (failed : (frame inner).Fails error rest) :
    (program.run frame frames flag input).Fails error rest := by
  induction meets with
  | here =>
    obtain ⟨result, left⟩ := failed
    simp only [run, result, sequential.2]
    exact ⟨rfl, left⟩
  | scalar read later ih =>
    simp only [run, read]
    exact ih (sequential.1 _) failed
  | object read later ih =>
    obtain ⟨result, left⟩ := read
    simp only [run, result, left]
    exact ih (sequential.1 _) failed
  | depth later ih => exact ih (sequential _) failed
  | remaining later ih => exact sequential.elim
  | cancelled later ih => exact ih (sequential _) failed

end ReadProgram

namespace Dispatch

variable {dispatch : Dispatch} {cancelled : Bool} {levels depth : Nat}
  {input inner payload rest : Bytes} {key : FrameKey} {error : CodingError}

/-- With so many levels left, reading the frame at the front of the first input comes to the one at
the front of the second, which is the outermost one itself or lies at that depth inside. The frames
around it are for codecs that read one thing after the other. -/
inductive Reaches (dispatch : Dispatch) (cancelled : Bool) : Nat → Nat → Bytes → Bytes → Prop
  | itself {levels : Nat} {input : Bytes} : Reaches dispatch cancelled levels 1 input input
  | nested {levels depth : Nat} {reader : Binding} {input payload middle inner : Bytes}
      (opens : dispatch.Opens reader input payload) (sequential : reader.codec.read.Sequential)
      (meets : reader.codec.read.Meets (dispatch.readFrame cancelled levels)
        (Frame.maxNesting - levels) cancelled payload middle)
      (inside : Reaches dispatch cancelled levels depth middle inner) :
      Reaches dispatch cancelled (levels + 1) (depth + 1) input inner

/-- A frame that is refused on every level has the frames around it refused for the same reason. -/
theorem Reaches.fails (reaches : dispatch.Reaches cancelled levels depth input inner)
    (room : depth ≤ levels)
    (failed : ∀ levels, (dispatch.readFrame cancelled (levels + 1) inner).Fails error rest) :
    (dispatch.readFrame cancelled levels input).Fails error rest := by
  induction reaches with
  | @itself levels input =>
    obtain ⟨below, rfl⟩ := Nat.exists_eq_add_of_le' room
    exact failed below
  | nested opens sequential meets inside ih =>
    rw [opens.readFrame]
    exact sequential.fails meets (ih (Nat.le_of_succ_le_succ room) failed)

theorem fails_of_noHeader (absent : Frame.NoHeader input error rest) (levels : Nat) :
    (dispatch.readFrame cancelled (levels + 1) input).Fails error rest := by
  simp only [readFrame, absent.readKey]
  exact ⟨rfl, rfl⟩

theorem fails_of_miss (header : Frame.Header input key payload)
    (missing : dispatch.readers.get? key = none) (levels : Nat) :
    (dispatch.readFrame cancelled (levels + 1) input).Fails
      (dispatch.readerMiss cancelled key) payload := by
  simp only [readFrame, header.readKey, missing]
  exact ⟨rfl, rfl⟩

/-- So many responses, one inside the other, up to where the innermost object belongs. -/
def openResponses (count : Nat) : Bytes := (List.replicate count [Codec.Successes.id, 1]).flatten

theorem HoldsBuiltIn.reaches_openResponses {services : Services}
    (holds : dispatch.HoldsBuiltIn services) (cancelled : Bool) (levels count : Nat)
    (inner : Bytes) :
    dispatch.Reaches cancelled (levels + count) (count + 1) (openResponses count ++ inner)
      inner := by
  induction count with
  | zero => exact .itself
  | succ count ih =>
    have place := Binding.successes_mem_builtIn services
    have valid := (Binding.builtIn_valid services _ place).1
    have opens : dispatch.Opens ⟨.internal Codec.Successes.id, Codec.Successes.codec⟩
        (openResponses (count + 1) ++ inner) (1 :: (openResponses count ++ inner)) :=
      ⟨_, Frame.readKey_header valid _, (holds.bound _ place).reader⟩
    exact .nested opens (Binding.sequential_builtIn services _ place) (.scalar rfl .here) ih

end Dispatch

namespace Registry

open Dispatch

/-- How an input is looked up at any time of a registry's life. It begins with a header or it is
refused for what it has instead. A key with a reader hands the payload to it. A key without one is
reported for what the registry was doing, with nothing read behind its header, at whatever depth the
built-in codecs come to it, and they can come to any depth; and a stopped registry, which has no
readers, blames no stream for it. -/
theorem decode_looks_up (operations : List Operation) (cancelled : Bool) :
    let registry := after operations
    let dispatch := registry.dispatch
    (∀ input, (∃ key payload, Frame.Header input key payload) ∨
      ∃ error rest, Frame.NoHeader input error rest) ∧
    (∀ input error rest, Frame.NoHeader input error rest →
      (dispatch.decode cancelled input).Fails error rest) ∧
    (∀ input key payload reader, Frame.Header input key payload →
      dispatch.readers.get? key = some reader →
        dispatch.decode cancelled input =
          reader.codec.read.run (dispatch.readFrame cancelled (Frame.maxNesting - 1)) 1 cancelled
            payload) ∧
    (∀ depth ≤ 128, ∀ input inner key payload,
      dispatch.Reaches cancelled Frame.maxNesting depth input inner →
      Frame.Header inner key payload → dispatch.readers.get? key = none →
        (dispatch.decode cancelled input).Fails
          (if registry.isRunning then .unknownFrame key
            else if cancelled then .shuttingDown (.frame key) else .notRunning key) payload) ∧
    (∀ services, ∀ binding ∈ Binding.builtIn services, binding.codec.read.Sequential) ∧
    (∀ services, dispatch.HoldsBuiltIn services → ∀ depth < 128, ∀ inner,
      dispatch.Reaches cancelled Frame.maxNesting (depth + 1) (openResponses depth ++ inner)
        inner) ∧
    (registry.isRunning = false → ∀ input, ∃ error rest,
      (dispatch.decode cancelled input).Fails error rest ∧ ∀ key, error ≠ .unknownFrame key) := by
  intro registry dispatch
  have misses : ∀ depth ≤ 128, ∀ input inner key payload,
      dispatch.Reaches cancelled Frame.maxNesting depth input inner →
      Frame.Header inner key payload → dispatch.readers.get? key = none →
        (dispatch.decode cancelled input).Fails (dispatch.readerMiss cancelled key) payload :=
    fun depth room input inner key payload reaches header missing =>
      reaches.fails room (fails_of_miss header missing)
  refine ⟨Frame.header_or_not, ?_, ?_, misses, Binding.sequential_builtIn, ?_, ?_⟩
  · intro input error rest absent
    exact fails_of_noHeader absent _
  · intro input key payload reader header found
    exact Opens.readFrame ⟨key, header.readKey, found⟩
  · intro services holds depth room inner
    have reaches := holds.reaches_openResponses cancelled (128 - depth) depth inner
    rw [Nat.sub_add_cancel room.le] at reaches
    exact reaches
  · intro stopped input
    rcases Frame.header_or_not input with ⟨key, payload, header⟩ | ⟨error, rest, absent⟩
    · have missing : dispatch.readers.get? key = none := by
        have empty : dispatch = .empty := (sound_after operations).stopped stopped
        rw [empty]
        rfl
      refine ⟨_, payload, misses 1 (by decide) input input key payload .itself header missing, ?_⟩
      intro other
      have halted : dispatch.isRunning = false := stopped
      rw [readerMiss, halted]
      cases cancelled <;> simp
    · refine ⟨error, rest, fails_of_noHeader absent _, fun key same => ?_⟩
      subst same
      cases absent

end Registry

end CodecRegistry
