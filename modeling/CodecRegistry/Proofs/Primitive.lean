import CodecRegistry.Proofs.Frame

/-! Reads of primitive values are put together from a few: a number in groups of seven bits, a run
of octets, and a look at what was read, which accepts or refuses it. What holds of these, and goes
over to reads that follow each other, holds of all of them and of the header of a frame. -/

namespace CodecRegistry

namespace Reading

variable {α β : Type}

/-- A property of reads that every read of a primitive value has. -/
structure Inherited (P : (α : Type) → (Bytes → Reading α) → Prop) : Prop where
  varint : ∀ width, P UInt64 (Varint.decode width)
  take : ∀ count, P Bytes (take count)
  accept : ∀ {α : Type} (value : α), P α fun input => ⟨.ok value, input⟩
  refuse : ∀ {α : Type} (cause : Malformation), P α fun input => ⟨.error (.malformed cause), input⟩
  andThen : ∀ {α β : Type} {read : Bytes → Reading α} {next : α → Bytes → Reading β},
    P α read → (∀ value, P β (next value)) → P β fun input => (read input).andThen next

theorem map_eq_andThen (f : α → β) (reading : Reading α) :
    reading.map f = reading.andThen fun value rest => ⟨.ok (f value), rest⟩ := by
  obtain ⟨result, rest⟩ := reading
  cases result <;> rfl

namespace Inherited

variable {P : (α : Type) → (Bytes → Reading α) → Prop}

theorem map (inherited : Inherited P) {read : Bytes → Reading α} (first : P α read) (f : α → β) :
    P β fun input => (read input).map f := by
  simp only [map_eq_andThen]
  exact inherited.andThen first fun value => inherited.accept (f value)

theorem readFixed (inherited : Inherited P) (width : Nat) : P Nat (readFixed width) :=
  inherited.map (inherited.take width) _

theorem readSized (inherited : Inherited P) : P Bytes readSized :=
  inherited.andThen (inherited.varint .w64) fun count => inherited.take count.toNat

theorem readBool (inherited : Inherited P) : P Bool readBool := by
  refine inherited.andThen (inherited.readFixed 1) fun marker => ?_
  split
  · exact inherited.accept false
  · exact inherited.accept true
  · exact inherited.refuse _

theorem readText (inherited : Inherited P) : P String readText := by
  refine inherited.andThen inherited.readSized fun octets => ?_
  split
  · exact inherited.accept _
  · exact inherited.refuse _

theorem decode (inherited : Inherited P) (kind : ScalarKind) : P kind.Carrier kind.decode := by
  cases kind with
  | byte => exact inherited.map (inherited.readFixed 1) _
  | bool => exact inherited.readBool
  | word16 => exact inherited.map (inherited.readFixed 2) _
  | int32 => exact inherited.map (inherited.readFixed 4) _
  | int64 => exact inherited.map (inherited.readFixed 8) _
  | varint32 => exact inherited.map (inherited.varint .w32) _
  | varint64 => exact inherited.varint .w64
  | bytes => exact inherited.readSized
  | text => exact inherited.readText

theorem readKey (inherited : Inherited P) : P FrameKey Frame.readKey := by
  refine inherited.andThen (inherited.decode .byte) fun id => ?_
  split
  · refine inherited.andThen (inherited.decode .varint32) fun id => ?_
    split
    · exact inherited.accept _
    · exact inherited.refuse _
  · exact inherited.accept _

end Inherited

/-! ## What is left -/

/-- A read leaves the back of its input, also when it fails. -/
theorem inherited_suffix : Inherited fun _ read => ∀ input, (read input).rest <:+ input where
  varint width := by
    suffices from_any : ∀ soFar input, (Varint.decodeFrom width soFar input).rest <:+ input from
      from_any ⟨0, 0⟩
    intro soFar input
    induction input generalizing soFar with
    | nil => exact List.suffix_rfl
    | cons byte rest ih =>
      simp only [Varint.decodeFrom]
      split
      · exact (ih _).trans (List.suffix_cons ..)
      · exact List.suffix_cons ..
      · exact List.suffix_cons ..
  take count input := by
    unfold take
    split
    · rename_i front rest split
      exact ⟨front, (Bytes.eq_append_of_split? split).1.symm⟩
    · exact List.suffix_rfl
  accept value input := List.suffix_rfl
  refuse cause input := List.suffix_rfl
  andThen {α β read next} first later input := by
    have before := first input
    dsimp only
    generalize read input = reading at before
    obtain ⟨result, rest⟩ := reading
    cases result with
    | ok value => exact (later value rest).trans before
    | error error => exact before

end Reading

namespace ReadProgram

variable {α : Type}

theorem rest_run_suffix {frame : Bytes → Decoding Object}
    (inner : ∀ input, (frame input).rest <:+ input) (frames : Nat) (flag : Bool)
    (program : ReadProgram α) (input : Bytes) :
    (run frame frames flag program input).rest <:+ input := by
  induction program generalizing input with
  | done value => exact List.suffix_rfl
  | fail error => exact List.suffix_rfl
  | scalar kind next ih => exact (ih _ _).trans (Reading.inherited_suffix.decode kind input)
  | object next ih => exact (ih _ _).trans (inner input)
  | depth next ih => exact ih frames input
  | remaining next ih => exact ih input.length input
  | cancelled next ih => exact ih flag input

end ReadProgram

/-- Whatever the codecs do, a frame takes octets off the front and touches no others. -/
theorem Dispatch.rest_readFrame_suffix (dispatch : Dispatch) (cancelled : Bool) (levels : Nat)
    (input : Bytes) : (dispatch.readFrame cancelled levels input).rest <:+ input := by
  induction levels generalizing input with
  | zero => exact List.suffix_rfl
  | succ levels ih =>
    have header := Reading.inherited_suffix.readKey input
    simp only [readFrame]
    generalize Frame.readKey input = reading at header
    obtain ⟨result, rest⟩ := reading
    cases result with
    | error error => exact header
    | ok key =>
      dsimp only
      split
      · exact header
      · exact (ReadProgram.rest_run_suffix ih ..).trans header

end CodecRegistry
