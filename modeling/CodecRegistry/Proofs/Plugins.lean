import CodecRegistry.Proofs.Entries
import CodecRegistry.Proofs.Exchange
import CodecRegistry.Proofs.Loaded

/-! Codecs that users configure. A frame is read by whoever stands at its key, which is a codec of
the writer's implementation but not always the writer itself: the last entry of a configuration to
come to an id reads for all of them. What a codec that is faithful by itself writes comes back as
long as that entry reads like it. -/

namespace CodecRegistry

namespace Codec

/-- What a codec writes for an object without nested ones. -/
def writeAlone (codec : Codec) (cancelled : Bool) (object : Object) : Encoding :=
  (codec.write object).run (fun _ _ => ⟨.ok (), [], []⟩) cancelled

/-- What a codec without nested objects reads, as in the only frame of a buffer. -/
def readAlone (codec : Codec) (cancelled : Bool) (input : Bytes) : Decoding Object :=
  codec.read.run (fun input => ⟨.error (.nestingTooDeep 1), input, []⟩) 1 cancelled input

/-- A codec that nests no objects when it writes the values of a type, and none when it reads. Which
objects are values is for the application to say: its records have the fields of their types, and
not just any. -/
structure NestsNothing (codec : Codec) (values : Object → Prop) (type : ObjectType) : Prop where
  write : ∀ object, values object → object.type = type → (codec.write object).Flat
  read : codec.read.Flat

/-- A codec that by itself reads every value of a type back from what it wrote, whatever follows;
`alike` says which values count as equal. -/
def Lossless (codec : Codec) (cancelled : Bool) (values : Object → Prop)
    (alike : Object → Object → Prop) (type : ObjectType) : Prop :=
  ∀ object, values object → object.type = type →
    (codec.writeAlone cancelled object).result = .ok () ∧
    ∀ rest, ∃ value,
      (codec.readAlone cancelled ((codec.writeAlone cancelled object).written ++ rest)).result =
        .ok value ∧
      (codec.readAlone cancelled ((codec.writeAlone cancelled object).written ++ rest)).rest =
        rest ∧
      alike object value

end Codec

/-! ## Records of primitive values -/

def FieldKind.isScalar : FieldKind → Bool
  | .scalar _ => true
  | _ => false

namespace Field

variable {kinds : List FieldKind} {fields : List Field}

theorem object_not_mem (shape : List.Forall₂ Of kinds fields)
    (scalars : ∀ kind ∈ kinds, kind.isScalar = true) (value : Object) :
    .object value ∉ fields := by
  induction shape with
  | nil => exact List.not_mem_nil
  | cons head tail ih =>
    obtain ⟨here, later⟩ := List.forall_mem_cons.1 scalars
    rw [List.mem_cons, not_or]
    cases head with
    | scalar fits => exact ⟨nofun, ih later⟩
    | object => cases here

theorem arrived_scalars (shape : List.Forall₂ Of kinds fields)
    (scalars : ∀ kind ∈ kinds, kind.isScalar = true) (services : Services) :
    fields.map (arrived services) = fields := by
  induction shape with
  | nil => rfl
  | cons head tail ih =>
    obtain ⟨here, later⟩ := List.forall_mem_cons.1 scalars
    rw [List.map_cons, ih later]
    cases head with
    | scalar fits => rfl
    | object => cases here

/-- Fields of primitive values are read one behind the other, whatever frames are. -/
theorem run_readAll_scalars {frame : Bytes → Decoding Object} {frames : Nat} {flag : Bool}
    {octets : Object → Bytes} (shape : List.Forall₂ Of kinds fields)
    (scalars : ∀ kind ∈ kinds, kind.isScalar = true) (rest : Bytes) :
    (readAll kinds).run frame frames flag (fields.flatMap (Field.octets octets) ++ rest) =
      ⟨.ok fields, rest, []⟩ := by
  have none := object_not_mem shape scalars
  have whole : (readAll kinds).run frame frames flag
      (fields.flatMap (Field.octets octets) ++ rest) =
        ⟨.ok (fields.map (arrived .bare)), rest, []⟩ :=
    run_readAll shape (fun value mem => absurd mem (none value)) rest
  rwa [arrived_scalars shape scalars] at whole

theorem flat_writeAll {bound : Nat} (none : ∀ value, .object value ∉ fields)
    (deeper : spanAll fields < bound) : (writeAll fields deeper).Flat := by
  induction fields with
  | nil => trivial
  | cons field rest ih =>
    have later := ih fun value mem => none value (List.mem_cons_of_mem _ mem)
    cases field with
    | object value => exact absurd List.mem_cons_self (none value)
    | _ => exact later _

open ReadProgram in
theorem flat_readAll (scalars : ∀ kind ∈ kinds, kind.isScalar = true) :
    (readAll kinds).Flat := by
  induction kinds with
  | nil => trivial
  | cons kind rest ih =>
    obtain ⟨here, later⟩ := List.forall_mem_cons.1 scalars
    cases kind with
    | scalar kind =>
      have field : (read (.scalar kind)).Flat := (flat_value kind).bind fun _ => trivial
      exact field.bind fun _ => (ih later).bind fun _ => trivial
    | _ => cases here

end Field

namespace Codec.RecordLayout

variable {layout : RecordLayout} {values : Object → Prop} {type : ObjectType}

/-- The records that a layout is for: of one of its types, and each field of its kind. -/
inductive Fills (layout : RecordLayout) : Object → Prop
  | record {typeName : String} {fields : List Field} (handled : typeName ∈ layout.typeNames)
      (shape : List.Forall₂ Field.Of layout.fields fields) :
      Fills layout (.record typeName fields)

theorem flat_read (scalars : ∀ kind ∈ layout.fields, kind.isScalar = true) :
    layout.read.Flat := by
  have flat_readFrom (position : Nat) : (layout.readFrom position).Flat := by
    refine (Field.flat_readAll scalars).bind fun fields => ?_
    split <;> trivial
  unfold read
  split
  · trivial
  · rw [readKnown_eq]
    split
    · exact (ReadProgram.flat_value .byte).bind fun position => flat_readFrom position.toNat
    · exact flat_readFrom 0

theorem Faithful.nestsNothing (faithful : layout.Faithful)
    (scalars : ∀ kind ∈ layout.fields, kind.isScalar = true)
    (fills : ∀ object, values object → object.type = type → layout.Fills object) :
    layout.codec.NestsNothing values type where
  write := by
    intro object value same
    cases fills object value same with
    | record handled shape =>
      rw [faithful.write_record handled]
      exact Field.flat_writeAll (Field.object_not_mem shape scalars) _
  read := flat_read scalars

/-- A codec for records of primitive values is faithful by itself. -/
theorem Faithful.lossless (faithful : layout.Faithful)
    (scalars : ∀ kind ∈ layout.fields, kind.isScalar = true)
    (fills : ∀ object, values object → object.type = type → layout.Fills object)
    (cancelled : Bool) : layout.codec.Lossless cancelled values Eq type := by
  intro object value same
  have flat := (faithful.nestsNothing scalars fills).write object value same
  cases fills object value same with
  | @record typeName fields handled shape =>
    have none := Field.object_not_mem shape scalars
    have written : layout.codec.writeAlone cancelled (.record typeName fields) =
        ⟨.ok (), layout.tag typeName ++ fields.flatMap (Field.octets fun _ => []), []⟩ := by
      -- Nobody writes frames here, so the codec writes what it would write in any registry.
      refine (flat.run_eq _ (fun value _ => Dispatch.empty.encode cancelled value) _).trans ?_
      rw [faithful.write_record handled]
      refine (Dispatch.emit_octets ..).trans ?_
      rw [Dispatch.emit_writeAll _ fun value mem => absurd mem (none value)]
    have back (rest : Bytes) : layout.codec.readAlone cancelled
        ((layout.tag typeName ++ fields.flatMap (Field.octets fun _ => [])) ++ rest) =
          ⟨.ok (.record typeName fields), rest, []⟩ := by
      rw [readAlone, List.append_assoc, faithful.run_read handled,
        Field.run_readAll_scalars shape scalars, Decoding.andThen_ok]
    rw [written]
    refine ⟨rfl, fun rest => ⟨.record typeName fields, ?_, ?_, rfl⟩⟩
    · rw [back]
    · rw [back]

end Codec.RecordLayout

/-! ## Who reads -/

/-- A frame without nested ones is written by the writer of its type, and what comes back is what
the reader of the writer's key makes of the payload. -/
theorem Dispatch.Consistent.decode_alone {dispatch : Dispatch} (consistent : dispatch.Consistent)
    {object : Object} {writer reader : Binding}
    (found : dispatch.writers.get? object.type = some writer)
    (atKey : dispatch.readers.get? writer.key = some reader)
    (writes : (writer.codec.write object).Flat) (reads : reader.codec.read.Flat)
    (cancelled : Bool) :
    (dispatch.encode cancelled object).result =
        (writer.codec.writeAlone cancelled object).result ∧
      ∀ rest, dispatch.decode cancelled ((dispatch.encode cancelled object).written ++ rest) =
        reader.codec.readAlone cancelled
          ((writer.codec.writeAlone cancelled object).written ++ rest) := by
  have written : dispatch.emit cancelled (writer.codec.write object) =
      writer.codec.writeAlone cancelled object := writes.run_eq ..
  rw [encode_of_writer found, encodeWith, written]
  refine ⟨rfl, fun rest => ?_⟩
  rw [List.append_assoc]
  refine (readFrame_header (consistent.valid found) atKey (Frame.maxNesting - 1) _).trans ?_
  exact reads.run_eq ..

namespace Registry

open Contribution

variable {registry : Registry} {services : Services} {configuration : Configuration}
  {entry : ConfigurationEntry} {entries : List ConfigurationEntry} {given : List Contribution}

/-- The binding of an entry behind which no other entry comes to the same id. -/
def LastUnder (registry : Registry) (services : Services) (entries : List ConfigurationEntry)
    (last : Binding) : Prop :=
  ∃ before entry later types, entries = before ++ entry :: later ∧
    registry.Enters services entry ⟨last, types⟩ ∧
    ∀ other ∈ later, ∀ contribution, registry.Enters services other contribution →
      contribution.binding.id ≠ last.id

theorem LastUnder.configures {last : Binding}
    (isLast : registry.LastUnder services configuration.entries last) :
    ∃ type, registry.Configures services configuration last type := by
  obtain ⟨before, entry, later, types, same, enters, -⟩ := isLast
  obtain ⟨type, handled⟩ := enters.exists_handled
  have listed : entry ∈ configuration.entries := by
    rw [same]
    exact List.mem_append_right _ List.mem_cons_self
  exact ⟨type, enters.configures listed handled⟩

/-- Behind an entry without rivals no other one comes to its id. -/
theorem Enters.eq_of_noRival {other : ConfigurationEntry}
    {later between back : List ConfigurationEntry} {a b : Contribution}
    (first : registry.Enters services entry a) (second : registry.Enters services other b)
    (noRival : ∀ rival ∈ later, ∀ contribution, registry.Enters services rival contribution →
      contribution.binding.id ≠ a.binding.id)
    (cut : entry :: later = between ++ other :: back) (sameId : a.binding.id = b.binding.id) :
    a = b := by
  cases between with
  | nil =>
    obtain ⟨rfl, -⟩ := List.cons.inj cut
    exact first.unique second
  | cons head between =>
    obtain ⟨-, rfl⟩ := List.cons.inj cut
    exact absurd sameId.symm
      (noRival other (List.mem_append_right _ List.mem_cons_self) b second)

theorem LastUnder.unique {a b : Binding} (first : registry.LastUnder services entries a)
    (second : registry.LastUnder services entries b) (sameId : a.id = b.id) : a = b := by
  obtain ⟨before, entry, later, types, rfl, enters, noRival⟩ := first
  obtain ⟨front, other, back, others, same, alsoEnters, noOther⟩ := second
  rcases List.append_eq_append_iff.1 same with ⟨between, -, cut⟩ | ⟨between, -, cut⟩
  · exact congrArg Contribution.binding (enters.eq_of_noRival alsoEnters noRival cut sameId)
  · exact (congrArg Contribution.binding
      (alsoEnters.eq_of_noRival enters noOther cut sameId.symm)).symm

theorem lastUnder_of_last? (paired : List.Forall₂ (registry.Enters services) entries given)
    {key : FrameKey} {last : Binding} (found : lastUnder? given key = some last) :
    registry.LastUnder services entries last := by
  induction paired with
  | nil => cases found
  | @cons entry contribution entries given here others ih =>
    have split : lastUnder? (contribution :: given) key =
        (lastUnder? given key).or (lastUnder? [contribution] key) :=
      last?_append [contribution] given _
    rw [split] at found
    cases behind : lastUnder? given key with
    | some other =>
      rw [behind, Option.some_or] at found
      obtain ⟨before, entry, later, types, rfl, rest⟩ := ih (behind.trans found)
      exact ⟨_ :: before, entry, later, types, rfl, rest⟩
    | none =>
      rw [behind, Option.none_or] at found
      obtain ⟨only, mem, atKey, rfl⟩ := mem_of_last? found
      obtain rfl := List.mem_singleton.1 mem
      refine ⟨[], entry, entries, only.types, rfl, here, fun other listed rival enters sameId => ?_⟩
      obtain ⟨partner, known, alsoEnters⟩ := exists_contribution others listed
      obtain rfl := enters.unique alsoEnters
      refine last?_eq_none_iff.1 behind rival known (decide_eq_true ?_)
      rw [of_decide_eq_true atKey, Binding.key, Binding.key, sameId]

/-- Behind a foreign key stands the last entry to come to it. -/
theorem lastUnder_of_reader (started : (registry.start services configuration).answer = .ok ())
    {key : FrameKey} {reader : Binding}
    (found : (registry.start services configuration).registry.dispatch.readers.get? key =
      some reader) (foreign : reader.id.isForeign = true) :
    registry.LastUnder services configuration.entries reader := by
  obtain ⟨contributions, yields, -⟩ := exists_yields started
  obtain ⟨-, reflects⟩ := yields.reflects_start started
  obtain ⟨own, given, rfl, yieldsOwn, paired⟩ := yields_loadList_iff.1 yields
  rw [reflects.reader, lastUnder?, last?_append] at found
  rcases Option.or_eq_some_iff.1 found with configured | ⟨-, internal⟩
  · exact lastUnder_of_last? paired configured
  · obtain ⟨contribution, mem, -, rfl⟩ := mem_of_last? internal
    exact absurd (isForeign_own yieldsOwn contribution mem) (by rw [foreign]; decide)

/-- What a configured codec writes, the last entry to come to its id reads, and that is all that
comes of it. So where every codec is faithful by itself, a value comes back as long as that entry
reads like the codec that wrote the value, be it the same entry or not. -/
theorem plugin_round_trip (started : (registry.start services configuration).answer = .ok ())
    (more : List Operation)
    (running : ∀ front, front <+: more →
      (front.foldl perform (registry.start services configuration).registry).isRunning = true)
    (cancelled : Bool) (values : Object → Prop) (alike : Object → Object → Prop)
    (flat : ∀ binding type, registry.Configures services configuration binding type →
      binding.codec.NestsNothing values type)
    (lossless : ∀ binding type, registry.Configures services configuration binding type →
      binding.codec.Lossless cancelled values alike type)
    {object : Object} (value : values object) {writer : Binding}
    (found : (more.foldl perform
      (registry.start services configuration).registry).dispatch.writers.get? object.type =
        some writer)
    (foreign : writer.id.isForeign = true) :
    let dispatch := (more.foldl perform (registry.start services configuration).registry).dispatch
    (dispatch.encode cancelled object).result = .ok () ∧
    (∃ last, registry.LastUnder services configuration.entries last ∧ last.id = writer.id) ∧
    ∀ last, registry.LastUnder services configuration.entries last → last.id = writer.id →
      (∀ rest, dispatch.decode cancelled ((dispatch.encode cancelled object).written ++ rest) =
        last.codec.readAlone cancelled
          ((writer.codec.writeAlone cancelled object).written ++ rest)) ∧
      ((∀ input, last.codec.readAlone cancelled input = writer.codec.readAlone cancelled input) →
        ∀ rest, ∃ value,
          (dispatch.decode cancelled
            ((dispatch.encode cancelled object).written ++ rest)).result = .ok value ∧
          (dispatch.decode cancelled
            ((dispatch.encode cancelled object).written ++ rest)).rest = rest ∧
          alike object value) := by
  intro dispatch
  obtain ⟨consistent, loaded⟩ := loadedFrom_of_running started more running
  have writes := (loaded.writer found).configures foreign
  obtain ⟨reader, atKey, readerId, -⟩ := consistent.readable found
  have readsLast := lastUnder_of_reader started (reader_of_running more running atKey)
    (readerId ▸ foreign)
  obtain ⟨type, reads⟩ := readsLast.configures
  obtain ⟨encoded, decoded⟩ := consistent.decode_alone found atKey
    ((flat writer _ writes).write object value rfl) (flat reader type reads).read cancelled
  obtain ⟨done, back⟩ := lossless writer _ writes object value rfl
  refine ⟨encoded.trans done, ⟨reader, readsLast, readerId⟩, fun last isLast sameId => ?_⟩
  obtain rfl := readsLast.unique isLast (readerId.trans sameId.symm)
  refine ⟨decoded, fun same rest => ?_⟩
  rw [decoded, same]
  exact back rest

/-- Codecs of layouts, one entry each, all under one id. -/
def underOneId (layouts : List Codec.RecordLayout) : Configuration :=
  { Configuration.standard with
    entries := layouts.map fun layout => ⟨some layout.codec, none, some 300⟩ }

theorem configures_underOneId {layouts : List Codec.RecordLayout} {binding : Binding}
    {type : ObjectType}
    (configures : registry.Configures services (underOneId layouts) binding type) :
    ∃ layout ∈ layouts, binding.codec = layout.codec ∧
      ∃ types, registry.catalog.handledTypes layout.codec = .ok types ∧ type ∈ types := by
  obtain ⟨item, listed, types, accepted, handled⟩ := configures
  obtain ⟨id, -, -, found, resolved⟩ := entryBinding_ok accepted
  obtain ⟨layout, mem, entry⟩ := List.mem_map.1 (List.fst_mem_of_mem_zipIdx listed)
  rw [← entry] at found
  have codec : binding.codec = layout.codec := (Except.ok.inj found).symm
  exact ⟨layout, mem, codec, types, codec ▸ resolved, handled⟩

/-- Records of one number. -/
inductive Counts : Object → Prop
  | record (typeName : String) (count : UInt8) : Counts (.record typeName [.scalar ⟨.byte, count⟩])

/-- Layouts for such records, whose codecs declare types of theirs only. -/
def CountsOnly (layouts : List Codec.RecordLayout) : Prop :=
  ∀ layout ∈ layouts, layout.failure = none ∧ layout.typeNames.length ≤ 256 ∧
    layout.fields = [.scalar .byte] ∧ ∀ handled ∈ layout.descriptor.types,
      ∃ typeName ∈ layout.typeNames, handled = .exact (.application typeName)

instance (layouts : List Codec.RecordLayout) : Decidable (CountsOnly layouts) :=
  inferInstanceAs (Decidable (∀ _ ∈ _, _))

theorem CountsOnly.alone {layouts : List Codec.RecordLayout} (counts : CountsOnly layouts)
    {binding : Binding} {type : ObjectType}
    (configures : registry.Configures services (underOneId layouts) binding type)
    (cancelled : Bool) :
    binding.codec.NestsNothing Counts type ∧ binding.codec.Lossless cancelled Counts Eq type := by
  obtain ⟨layout, mem, codec, types, resolved, known⟩ := configures_underOneId configures
  obtain ⟨works, few, fields, declares⟩ := counts layout mem
  have scalars : ∀ kind ∈ layout.fields, kind.isScalar = true := by
    rw [fields]
    decide
  have fills : ∀ object, Counts object → object.type = type → layout.Fills object := by
    rintro _ ⟨typeName, count⟩ rfl
    have named : some (.application typeName) ∈
        layout.descriptor.types.map registry.catalog.lookUp := by
      have same : layout.descriptor.types.map registry.catalog.lookUp = types.map some :=
        (Catalog.handles_of_handledTypes resolved).known
      rw [same]
      exact List.mem_map_of_mem known
    obtain ⟨handled, declared, looked⟩ := List.mem_map.1 named
    obtain ⟨other, known, rfl⟩ := declares handled declared
    cases looked
    refine .record known ?_
    rw [fields]
    exact .cons (.scalar trivial) .nil
  rw [codec]
  have faithful : layout.Faithful := ⟨works, few⟩
  exact ⟨faithful.nestsNothing scalars fills, faithful.lossless scalars fills cancelled⟩

/-- Two instances that are faithful by themselves, and a record that comes back as another one. -/
theorem shared_id_confuses :
    let configuration := underOneId [counting "A", counting "B"]
    let dispatch := (empty.start .bare configuration).registry.dispatch
    let object : Object := .record "A" [.scalar ⟨.byte, 7⟩]
    (empty.start .bare configuration).answer = .ok () ∧
    (∀ binding type, empty.Configures .bare configuration binding type →
      binding.codec.NestsNothing Counts type ∧ binding.codec.Lossless false Counts Eq type) ∧
    Counts object ∧
    (∃ writer, dispatch.writers.get? object.type = some writer ∧ writer.id.isForeign = true) ∧
    dispatch.decode false (dispatch.encode false object).written =
      ⟨.ok (.record "B" [.scalar ⟨.byte, 7⟩]), [], []⟩ := by
  intro configuration dispatch object
  obtain ⟨started, foreign, written⟩ : (empty.start .bare configuration).answer = .ok () ∧
      (dispatch.writers.get? object.type).map (fun writer => writer.id.isForeign) = some true ∧
      (dispatch.encode false object).written = [255, 0xAC, 0x02, 7] := by decide +kernel
  have counts : CountsOnly [counting "A", counting "B"] := by decide
  refine ⟨started, fun binding type configures => counts.alone configures false, .record "A" 7,
    Option.map_eq_some_iff.1 foreign, ?_⟩
  rw [written]
  rfl

/-- Records of a number, of two types. Not every instance declares both. -/
def counter (declared : List String) : Codec.RecordLayout :=
  ⟨"counter", ⟨none, declared.map fun typeName => .exact (.application typeName)⟩, ["A", "B"],
    [.scalar .byte], none⟩

/-- A record that one instance writes and another one, which came last to the id, reads. -/
theorem plugin_round_trip_shared :
    let configuration := underOneId [counter ["A", "B"], counter ["B"]]
    let dispatch := (empty.start .bare configuration).registry.dispatch
    let object : Object := .record "A" [.scalar ⟨.byte, 7⟩]
    let frame : Bytes := [255, 0xAC, 0x02, 0, 7]
    (dispatch.writers.get? object.type).map Binding.types =
      some [.application "A", .application "B"] ∧
    (dispatch.readers.get? (.foreign 300)).map Binding.types = some [.application "B"] ∧
    (dispatch.encode false object).result = .ok () ∧
    (dispatch.encode false object).written = frame ∧
    (dispatch.decode false (frame ++ [1])).result = .ok object ∧
    (dispatch.decode false (frame ++ [1])).rest = [1] := by
  intro configuration dispatch object frame
  obtain ⟨started, runs, foreign, writes, reads, written⟩ :
      (empty.start .bare configuration).answer = .ok () ∧
      (empty.start .bare configuration).registry.isRunning = true ∧
      (dispatch.writers.get? object.type).map (fun writer => writer.id.isForeign) = some true ∧
      (dispatch.writers.get? object.type).map Binding.types =
        some [.application "A", .application "B"] ∧
      (dispatch.readers.get? (.foreign 300)).map Binding.types = some [.application "B"] ∧
      (dispatch.encode false object).written = frame := by decide +kernel
  obtain ⟨writer, found, foreign⟩ := Option.map_eq_some_iff.1 foreign
  have counts : CountsOnly [counter ["A", "B"], counter ["B"]] := by decide
  -- Which types an instance declares plays no part in how it reads.
  have reader {binding : Binding} {type : ObjectType}
      (configures : empty.Configures .bare configuration binding type) :
      binding.codec.read = (counter []).codec.read := by
    obtain ⟨layout, mem, codec, -⟩ := configures_underOneId configures
    rw [codec]
    simp only [List.mem_cons, List.not_mem_nil, or_false] at mem
    rcases mem with rfl | rfl <;> rfl
  obtain ⟨encoded, ⟨last, isLast, sameId⟩, comesBack⟩ := plugin_round_trip started []
    (running_nil_iff.2 runs) false Counts Eq
    (fun _ _ configures => (counts.alone configures false).1)
    (fun _ _ configures => (counts.alone configures false).2) (.record "A" 7) found foreign
  have same (input : Bytes) :
      last.codec.readAlone false input = writer.codec.readAlone false input := by
    obtain ⟨type, lastConfigures⟩ := isLast.configures
    have writes := ((loadedFrom_of_running started [] (running_nil_iff.2 runs)).2.writer
      found).configures foreign
    rw [Codec.readAlone, Codec.readAlone, reader lastConfigures, reader writes]
  obtain ⟨value, result, rest, rfl⟩ := (comesBack last isLast sameId).2 same [1]
  refine ⟨writes, reads, encoded, written, ?_, ?_⟩
  · rw [← written]
    exact result
  · rw [← written]
    exact rest

end Registry

end CodecRegistry
