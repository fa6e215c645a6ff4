import CodecRegistry.Frame
import CodecRegistry.Proofs.Program

/-! The header of a frame names its binding: reading it gives the key of the id that it was written
for. So the payload that a binding wrote is handed to whatever stands at its key among the
readers. -/

namespace CodecRegistry

namespace WireId

/-- The ids that pass the checks of a start. -/
def Valid : WireId → Prop
  | internal id => id < FrameKey.sentinel
  | foreign id => id ≤ FrameKey.largestForeignId

instance : DecidablePred Valid
  | internal id => inferInstanceAs (Decidable (id < FrameKey.sentinel))
  | foreign id => inferInstanceAs (Decidable (id ≤ FrameKey.largestForeignId))

theorem toNat_key_internal (id : UInt8) : (internal id).key.word.toNat = id.toNat := rfl

theorem toNat_key_foreign {id : UInt32} (valid : (foreign id).Valid) :
    (foreign id).key.word.toNat = 2 ^ 31 + id.toNat := by
  have small : id.toNat < 2 ^ 31 := Nat.lt_succ_of_le (UInt32.le_iff_toNat_le.1 valid)
  have disjoint := Nat.two_pow_add_eq_or_of_lt small 1
  show (FrameKey.foreignFlag ||| id).toNat = _
  rw [UInt32.toNat_or]
  exact disjoint.symm

/-- Different ids have different keys, in one namespace and across the two. -/
theorem key_injective {a b : WireId} (ha : a.Valid) (hb : b.Valid) (h : a.key = b.key) : a = b := by
  have same : a.key.word.toNat = b.key.word.toNat := by rw [h]
  cases a with
  | internal a =>
    cases b with
    | internal b =>
      rw [toNat_key_internal, toNat_key_internal, UInt8.toNat_inj] at same
      rw [same]
    | foreign b =>
      rw [toNat_key_internal, toNat_key_foreign hb] at same
      have := a.toNat_lt
      omega
  | foreign a =>
    cases b with
    | internal b =>
      rw [toNat_key_internal, toNat_key_foreign ha] at same
      have := b.toNat_lt
      omega
    | foreign b =>
      rw [toNat_key_foreign ha, toNat_key_foreign hb, Nat.add_right_inj, UInt32.toNat_inj] at same
      rw [same]

end WireId

theorem Frame.readKey_header {id : WireId} (valid : id.Valid) (rest : Bytes) :
    Frame.readKey (id.header ++ rest) = ⟨.ok id.key, rest⟩ := by
  cases id with
  | internal id =>
    have read : ScalarKind.byte.decode (ScalarKind.byte.encode id ++ rest) = ⟨.ok id, rest⟩ :=
      ScalarKind.decode_encode .byte trivial rest
    have plain : id ≠ FrameKey.sentinel := UInt8.ne_of_lt valid
    show (ScalarKind.byte.decode (ScalarKind.byte.encode id ++ rest)).andThen _ = _
    rw [read]
    exact if_neg plain
  | foreign id =>
    have first : ScalarKind.byte.decode
        (ScalarKind.byte.encode FrameKey.sentinel ++ (ScalarKind.varint32.encode id ++ rest)) =
          ⟨.ok FrameKey.sentinel, ScalarKind.varint32.encode id ++ rest⟩ :=
      ScalarKind.decode_encode .byte trivial _
    have second : ScalarKind.varint32.decode (ScalarKind.varint32.encode id ++ rest) =
        ⟨.ok id, rest⟩ := ScalarKind.decode_encode .varint32 trivial rest
    show (ScalarKind.byte.decode
      (ScalarKind.byte.encode FrameKey.sentinel ++
        (ScalarKind.varint32.encode id ++ rest))).andThen _ = _
    rw [first]
    simp only [Reading.andThen, if_true, second]
    exact if_pos valid

namespace Dispatch

variable {dispatch : Dispatch} {cancelled : Bool}

/-- An object is written by the binding of its type. -/
theorem encode_of_writer {object : Object} {binding : Binding}
    (writer : dispatch.writers.get? object.type = some binding) :
    dispatch.encode cancelled object = dispatch.encodeWith cancelled binding object := by
  unfold encode
  split
  · rename_i absent
    rw [absent] at writer
    cases writer
  · rename_i known found
    rw [found] at writer
    cases writer
    rfl

@[simp] theorem emit_done {bound : Nat} :
    dispatch.emit cancelled (.done : WriteProgram bound) = ⟨.ok (), [], []⟩ := rfl

theorem emit_octets {bound : Nat} (octets : Bytes) (next : WriteProgram bound) :
    dispatch.emit cancelled (.emit octets next) =
      { dispatch.emit cancelled next with
        written := octets ++ (dispatch.emit cancelled next).written } := rfl

/-- What a codec emits in one piece. -/
theorem emit_payload {bound : Nat} (octets : Bytes) :
    dispatch.emit cancelled (.emit octets .done : WriteProgram bound) = ⟨.ok (), octets, []⟩ := by
  rw [emit_octets, emit_done, List.append_nil]

/-- Once a nested object is written, the program goes on behind its frame. -/
theorem emit_nest {bound : Nat} {value : Object} {deeper : value.span < bound} {inner : Bytes}
    (written : dispatch.encode cancelled value = ⟨.ok (), inner, []⟩) (next : WriteProgram bound) :
    dispatch.emit cancelled (.nest value deeper next) =
      { dispatch.emit cancelled next with
        written := inner ++ (dispatch.emit cancelled next).written } := by
  simp only [emit, WriteProgram.nest, WriteProgram.run, written, List.nil_append]

/-- A frame is read by the binding at its key, with one more frame open than around it. -/
theorem readFrame_header {id : WireId} {reader : Binding} (valid : id.Valid)
    (found : dispatch.readers.get? id.key = some reader) (levels : Nat) (payload : Bytes) :
    dispatch.readFrame cancelled (levels + 1) (id.header ++ payload) =
      reader.codec.read.run (dispatch.readFrame cancelled levels) (Frame.maxNesting - levels)
        cancelled payload := by
  simp only [readFrame, Frame.readKey_header valid, found]

end Dispatch

end CodecRegistry
