import Mathlib.Data.List.Forall2
import CodecRegistry.Codec.Records
import CodecRegistry.Proofs.Travel

/-! Records that nodes exchange. A record codec writes its fields in order and reads the same kinds
in the same order, so a payload is read back field by field; an object among the fields is a frame,
which travels by itself, whether a built-in codec wrote it or another record codec. The induction is
on the object, and inside a record on its fields. -/

namespace CodecRegistry

open Codec

/-- A field that is read back when the payload says this kind. -/
inductive Field.Of : FieldKind → Field → Prop
  | scalar {kind : ScalarKind} {value : kind.Carrier} (fits : kind.Fits value) :
      Of (.scalar kind) (.scalar ⟨kind, value⟩)
  | object {value : Object} : Of .object (.object value)

/-- Objects that are put together from built-in ones and records of these layouts. -/
inductive Object.Exchanged (layouts : List RecordLayout) : Object → Prop
  | builtIn {object : Object} (builtIn : object.BuiltIn) : Exchanged layouts object
  | success {value : Object} (inner : Exchanged layouts value) : Exchanged layouts (.success value)
  | record {layout : RecordLayout} {typeName : String} {fields : List Field}
      (known : layout ∈ layouts) (handled : typeName ∈ layout.typeNames)
      (shape : List.Forall₂ Field.Of layout.fields fields)
      (inner : ∀ value, .object value ∈ fields → Exchanged layouts value) :
      Exchanged layouts (.record typeName fields)

mutual

/-- What a reader makes of an object that may hold records: the same, but for the built-in objects
that it was given by another node. -/
def Object.arrived (services : Services) : Object → Object
  | .success value => .success (value.arrived services)
  | .record typeName fields => .record typeName (Field.arrivedAll services fields)
  | object => object.received services

def Field.arrived (services : Services) : Field → Field
  | .object value => .object (value.arrived services)
  | field => field

def Field.arrivedAll (services : Services) : List Field → List Field
  | [] => []
  | field :: rest => field.arrived services :: Field.arrivedAll services rest

end

theorem Field.arrivedAll_eq_map (services : Services) (fields : List Field) :
    Field.arrivedAll services fields = fields.map (Field.arrived services) := by
  induction fields with
  | nil => rfl
  | cons field rest ih => rw [arrivedAll, ih, List.map_cons]

theorem Object.BuiltIn.arrived_eq {object : Object} (builtIn : object.BuiltIn)
    (services : Services) : object.arrived services = object.received services := by
  induction builtIn with
  | success inner ih => rw [arrived, received, ih]
  | _ => rfl

/-- What a field adds to a payload: its octets, or its frame. What a reader only noted adds
nothing. -/
def Field.octets (frame : Object → Bytes) : Field → Bytes
  | .scalar value => value.encode
  | .object value => frame value
  | _ => []

namespace Dispatch

variable {dispatch : Dispatch} {cancelled : Bool} {octets : Object → Bytes}

/-- Fields are written one behind the other. -/
theorem emit_writeAll {bound : Nat} {fields : List Field} (deeper : Field.spanAll fields < bound)
    (written : ∀ value, .object value ∈ fields →
      dispatch.encode cancelled value = ⟨.ok (), octets value, []⟩) :
    dispatch.emit cancelled (Field.writeAll fields deeper) =
      ⟨.ok (), fields.flatMap (Field.octets octets), []⟩ := by
  induction fields with
  | nil => rfl
  | cons field rest ih =>
    have later := ih (Field.spanAll_tail_lt deeper) fun value mem =>
      written value (List.mem_cons_of_mem _ mem)
    cases field with
    | scalar value =>
      rw [Field.writeAll, emit_octets, later]
      rfl
    | object value =>
      refine (emit_nest (written value List.mem_cons_self) _).trans ?_
      rw [later]
      rfl
    | _ => exact later

end Dispatch

namespace Field

open ReadProgram

variable {frame : Bytes → Decoding Object} {frames : Nat} {flag : Bool} {octets : Object → Bytes}
  {services : Services} {kinds : List FieldKind} {fields : List Field}

theorem run_read_scalar {kind : ScalarKind} {value : kind.Carrier} (fits : kind.Fits value)
    (rest : Bytes) :
    (read (.scalar kind)).run frame frames flag (kind.encode value ++ rest) =
      ⟨.ok (.scalar ⟨kind, value⟩), rest, []⟩ :=
  run_value_bind _ _ _ kind fits _ rest

theorem run_read_object (input : Bytes) :
    (read .object).run frame frames flag input =
      (frame input).andThen fun value rest => ⟨.ok (.object value), rest, []⟩ :=
  run_nested_bind ..

theorem run_readAll_cons (kind : FieldKind) (kinds : List FieldKind) (input : Bytes) :
    (readAll (kind :: kinds)).run frame frames flag input =
      ((read kind).run frame frames flag input).andThen fun field left =>
        ((readAll kinds).run frame frames flag left).andThen fun fields left =>
          ⟨.ok (field :: fields), left, []⟩ := by
  rw [readAll, run_bind]
  congr 1
  funext field left
  exact run_bind ..

/-- Fields are read one behind the other, if the frames among them are. -/
theorem run_readAll (shape : List.Forall₂ Of kinds fields)
    (reads : ∀ value, .object value ∈ fields → ∀ rest,
      frame (octets value ++ rest) = ⟨.ok (value.arrived services), rest, []⟩) (rest : Bytes) :
    (readAll kinds).run frame frames flag (fields.flatMap (Field.octets octets) ++ rest) =
      ⟨.ok (fields.map (Field.arrived services)), rest, []⟩ := by
  induction shape with
  | nil => rfl
  | @cons kind field kinds fields head tail ih =>
    have later := ih fun value mem => reads value (List.mem_cons_of_mem _ mem)
    rw [List.flatMap_cons, List.append_assoc, run_readAll_cons]
    cases head with
    | scalar fits =>
      rw [Field.octets, Scalar.encode, run_read_scalar fits, Decoding.andThen_ok, later]
      rfl
    | @object value =>
      rw [Field.octets, run_read_object, reads value List.mem_cons_self, Decoding.andThen_ok,
        Decoding.andThen_ok, later]
      rfl

/-- A frame among them that is refused for its depth stops the reading. -/
theorem run_readAll_tooDeep {levels : Nat} {error : CodingError}
    (shape : List.Forall₂ Of kinds fields)
    (reads : ∀ value, .object value ∈ fields → value.span ≤ levels → ∀ rest,
      frame (octets value ++ rest) = ⟨.ok (value.arrived services), rest, []⟩)
    (refuses : ∀ value, .object value ∈ fields → levels < value.span → ∀ rest,
      (frame (octets value ++ rest)).result = .error error)
    (deep : levels < spanAll fields) (rest : Bytes) :
    ((readAll kinds).run frame frames flag
      (fields.flatMap (Field.octets octets) ++ rest)).result = .error error := by
  induction shape with
  | nil => exact absurd deep (Nat.not_lt_zero _)
  | @cons kind field kinds fields head tail ih =>
    have later := ih (fun value mem => reads value (List.mem_cons_of_mem _ mem))
      fun value mem => refuses value (List.mem_cons_of_mem _ mem)
    rw [List.flatMap_cons, List.append_assoc, run_readAll_cons]
    cases head with
    | scalar fits =>
      rw [Field.octets, Scalar.encode, run_read_scalar fits, Decoding.andThen_ok]
      apply Decoding.result_andThen_error
      apply later
      simp only [spanAll, span] at deep
      omega
    | @object value =>
      rw [Field.octets, run_read_object]
      by_cases fits : value.span ≤ levels
      · rw [reads value List.mem_cons_self fits, Decoding.andThen_ok, Decoding.andThen_ok]
        apply Decoding.result_andThen_error
        apply later
        simp only [spanAll, span] at deep
        omega
      · apply Decoding.result_andThen_error
        apply Decoding.result_andThen_error
        apply refuses value List.mem_cons_self
        omega

end Field

namespace Codec.RecordLayout

open ReadProgram

variable {layout : RecordLayout} {typeName : String}

/-- What a payload begins with: the position of its type, if there are several. -/
def tag (layout : RecordLayout) (typeName : String) : Bytes :=
  if layout.isTagged then [UInt8.ofNat (layout.typeNames.idxOf typeName)] else []

/-- A layout whose codec works, and whose types can be told apart by one octet. -/
structure Faithful (layout : RecordLayout) : Prop where
  works : layout.failure = none
  few : layout.typeNames.length ≤ 256

theorem position?_eq (handled : typeName ∈ layout.typeNames) :
    layout.position? (.application typeName) = some (layout.typeNames.idxOf typeName) := by
  have same : (fun name => decide (ObjectType.application typeName = .application name)) =
      (· == typeName) := by
    funext name
    rw [Bool.eq_iff_iff, decide_eq_true_iff, ObjectType.application.injEq, beq_iff_eq]
    exact eq_comm
  rw [position?, same]
  exact List.findIdx?_eq_some_iff_findIdx_eq.2 ⟨List.idxOf_lt_length_of_mem handled, rfl⟩

theorem Faithful.write_record (faithful : layout.Faithful) (handled : typeName ∈ layout.typeNames)
    (fields : List Field) :
    layout.codec.write (.record typeName fields) =
      .emit (layout.tag typeName)
        (Field.writeAll fields (Object.spanAll_lt_record typeName fields)) := by
  show layout.write _ = _
  simp only [write, faithful.works, writeKnown, Object.type, position?_eq handled]
  rfl

/-- Reads the fields of the type at a position. -/
def readFrom (layout : RecordLayout) (position : Nat) : ReadProgram Object := do
  let fields ← Field.readAll layout.fields
  match layout.typeNames[position]? with
  | some name => pure (.record name fields)
  | none => .fail (.malformed (.recordKind position))

theorem readKnown_eq (layout : RecordLayout) :
    layout.readKnown =
      if layout.isTagged then value .byte >>= fun position => layout.readFrom position.toNat
      else layout.readFrom 0 := by
  unfold readKnown
  dsimp only
  split
  · exact bind_assoc ..
  · rfl

theorem run_readFrom {position : Nat} (known : layout.typeNames[position]? = some typeName)
    (frame : Bytes → Decoding Object) (frames : Nat) (flag : Bool) (input : Bytes) :
    (layout.readFrom position).run frame frames flag input =
      ((Field.readAll layout.fields).run frame frames flag input).andThen fun fields rest =>
        ⟨.ok (.record typeName fields), rest, []⟩ := by
  rw [readFrom, run_bind, known]
  rfl

/-- Behind the tag stand the fields, and then the type is known. -/
theorem Faithful.run_read (faithful : layout.Faithful) (handled : typeName ∈ layout.typeNames)
    (frame : Bytes → Decoding Object) (frames : Nat) (flag : Bool) (input : Bytes) :
    layout.codec.read.run frame frames flag (layout.tag typeName ++ input) =
      ((Field.readAll layout.fields).run frame frames flag input).andThen fun fields rest =>
        ⟨.ok (.record typeName fields), rest, []⟩ := by
  have named := List.getElem?_idxOf handled
  have place := List.idxOf_lt_length_of_mem handled
  show layout.read.run _ _ _ _ = _
  rw [read, faithful.works]
  show layout.readKnown.run _ _ _ _ = _
  rw [readKnown_eq]
  by_cases tagged : layout.isTagged = true
  · have octet : (UInt8.ofNat (layout.typeNames.idxOf typeName)).toNat =
        layout.typeNames.idxOf typeName := by
      rw [UInt8.toNat_ofNat']
      exact Nat.mod_eq_of_lt (Nat.lt_of_lt_of_le place faithful.few)
    rw [tag, if_pos tagged, if_pos tagged]
    refine (run_value_bind frame frames flag .byte trivial _ input).trans ?_
    rw [octet]
    exact run_readFrom named ..
  · have only : layout.typeNames.idxOf typeName = 0 := by
      simp only [isTagged, decide_eq_true_eq] at tagged
      omega
    rw [tag, if_neg tagged, if_neg tagged]
    exact run_readFrom (only ▸ named) ..

end Codec.RecordLayout

namespace Dispatch

variable {dispatch : Dispatch} {services : Services} {cancelled : Bool} {layout : RecordLayout}
  {layouts : List RecordLayout} {id : UInt32} {typeName : String} {fields : List Field}
  {octets : Object → Bytes} {object received : Object}

/-- A record codec writes its types and reads the frames of its id. -/
structure HoldsLayout (dispatch : Dispatch) (id : UInt32) (layout : RecordLayout) : Prop where
  valid : (WireId.foreign id).Valid
  writer : ∀ typeName ∈ layout.typeNames,
    dispatch.writers.get? (.application typeName) = some ⟨.foreign id, layout.codec⟩
  reader : dispatch.readers.get? (WireId.foreign id).key = some ⟨.foreign id, layout.codec⟩

/-- The payload of a record is its tag and its fields in order. -/
theorem HoldsLayout.encode_record (holds : dispatch.HoldsLayout id layout)
    (faithful : layout.Faithful) (handled : typeName ∈ layout.typeNames)
    (written : ∀ value, .object value ∈ fields →
      dispatch.encode cancelled value = ⟨.ok (), octets value, []⟩) :
    dispatch.encode cancelled (.record typeName fields) =
      ⟨.ok (), (WireId.foreign id).header ++
        (layout.tag typeName ++ fields.flatMap (Field.octets octets)), []⟩ := by
  rw [encode_of_writer (holds.writer typeName handled), encodeWith,
    faithful.write_record handled, emit_octets, emit_writeAll _ written]

theorem HoldsLayout.readFrame_record (holds : dispatch.HoldsLayout id layout)
    (faithful : layout.Faithful) (handled : typeName ∈ layout.typeNames) (levels : Nat)
    (input : Bytes) :
    dispatch.readFrame cancelled (levels + 1)
        ((WireId.foreign id).header ++ (layout.tag typeName ++ input)) =
      ((Field.readAll layout.fields).run (dispatch.readFrame cancelled levels)
        (Frame.maxNesting - levels) cancelled input).andThen fun fields rest =>
          ⟨.ok (.record typeName fields), rest, []⟩ := by
  rw [readFrame_header holds.valid holds.reader]
  exact faithful.run_read handled ..

/-- A record travels when the objects among its fields do. -/
theorem HoldsLayout.travels_record (holds : dispatch.HoldsLayout id layout)
    (faithful : layout.Faithful) (handled : typeName ∈ layout.typeNames)
    (shape : List.Forall₂ Field.Of layout.fields fields)
    (inner : ∀ value, .object value ∈ fields →
      dispatch.Travels cancelled value (value.arrived services) (octets value)) :
    dispatch.Travels cancelled (.record typeName fields)
      ((Object.record typeName fields).arrived services)
      ((WireId.foreign id).header ++
        (layout.tag typeName ++ fields.flatMap (Field.octets octets))) where
  written := holds.encode_record faithful handled fun value mem => (inner value mem).written
  read := by
    intro levels enough rest
    rw [Object.span] at enough
    obtain ⟨more, rfl⟩ : ∃ more, levels = more + 1 := ⟨levels - 1, by omega⟩
    rw [List.append_assoc, List.append_assoc, holds.readFrame_record faithful handled,
      Field.run_readAll shape, Decoding.andThen_ok, Object.arrived, Field.arrivedAll_eq_map]
    intro value mem
    have deep := Field.span_le_spanAll mem
    rw [Field.span] at deep
    exact (inner value mem).read (by omega)
  tooDeep := by
    intro levels few rest
    cases levels with
    | zero => rfl
    | succ more =>
      rw [Object.span] at few
      rw [List.append_assoc, List.append_assoc, holds.readFrame_record faithful handled]
      apply Decoding.result_andThen_error
      apply Field.run_readAll_tooDeep shape
        (fun value mem enough => (inner value mem).read enough)
        (fun value mem deep => (inner value mem).tooDeep deep)
      omega

/-- An object whose frame is the same for every caller is written so by an uncancelled one. -/
theorem travels_encoded {frame : Bytes}
    (travels : ∀ cancelled, dispatch.Travels cancelled object received frame) (cancelled : Bool) :
    dispatch.Travels cancelled object received (dispatch.encode false object).written := by
  rw [(travels false).written]
  exact travels cancelled

/-- Whatever is put together from built-in objects and records travels, for every caller alike. -/
theorem HoldsBuiltIn.travels_exchanged (holds : dispatch.HoldsBuiltIn services)
    (asGiven : services.commands = .asGiven)
    (records : ∀ layout ∈ layouts, layout.Faithful ∧ ∃ id, dispatch.HoldsLayout id layout)
    (exchanged : object.Exchanged layouts) (cancelled : Bool) :
    dispatch.Travels cancelled object (object.arrived services)
      (dispatch.encode false object).written := by
  induction exchanged generalizing cancelled with
  | builtIn builtIn =>
    rw [builtIn.arrived_eq]
    exact travels_encoded (fun cancelled => holds.travels_frame asGiven cancelled builtIn) cancelled
  | success inner ih =>
    rw [Object.arrived]
    exact travels_encoded (fun cancelled => holds.travels_success (ih cancelled)) cancelled
  | record known handled shape inner ih =>
    obtain ⟨faithful, id, held⟩ := records _ known
    have travels (cancelled : Bool) := held.travels_record faithful handled shape
      fun value mem => ih value mem cancelled
    exact travels_encoded travels cancelled

end Dispatch

end CodecRegistry
