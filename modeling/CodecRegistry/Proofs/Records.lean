import CodecRegistry.Proofs.Contribution
import CodecRegistry.Proofs.Exchange
import CodecRegistry.Proofs.Extension

/-! Record codecs that users configure. Codecs of different implementations that have no type in
common leave each other alone, so a start that succeeds gives each its types and its id; and as
record types are no built-in types, the built-in codecs keep theirs. What the codecs of such a
registry exchange, they exchange whole, however their frames are mixed. -/

namespace CodecRegistry

open Codec

/-- Two codecs of different implementations that handle no type together. -/
structure Codec.Apart (catalog : Catalog) (a b : Codec) : Prop where
  implementation : a.implementation ≠ b.implementation
  types : ∀ types others, catalog.handledTypes a = .ok types → catalog.handledTypes b = .ok others →
    ∀ type ∈ others, type ∉ types

namespace Registry

variable {registry : Registry} {services : Services} {configuration : Configuration}

/-- Each configured codec has the types and the key that it was loaded for. -/
theorem load_serves (done : (registry.load services configuration).result = .ok ())
    (apart : configuration.entries.zipIdx.Pairwise fun a b => ∀ one other,
      entryCodec registry.catalog services a.2 a.1 = .ok one →
      entryCodec registry.catalog services b.2 b.1 = .ok other → one.Apart registry.catalog other) :
    ∀ item ∈ configuration.entries.zipIdx, ∃ binding types,
      entryBinding registry.catalog services item.2 item.1 = .ok (binding, types) ∧
      (registry.load services configuration).dispatch.Serves binding types := by
  rw [load, Loading.andThen_ok_iff] at done
  obtain ⟨declarations, entries⟩ := done
  rw [load, Loading.dispatch_andThen declarations]
  refine Loading.each_establishes (Q := fun item dispatch => ∃ binding types,
    entryBinding registry.catalog services item.2 item.1 = .ok (binding, types) ∧
      dispatch.Serves binding types) ?_ ?_ entries
  · intro item listed dispatch done
    simp only [loadEntry] at done ⊢
    cases accepted : entryBinding registry.catalog services item.2 item.1 with
    | error error =>
      rw [accepted] at done
      cases done
    | ok bound =>
      obtain ⟨binding, types⟩ := bound
      rw [accepted] at done
      obtain ⟨id, -, -, -, resolved⟩ := entryBinding_ok accepted
      have named := (Catalog.handles_of_handledTypes resolved).types_ne_nil
      exact ⟨binding, types, rfl, Dispatch.serves_register named done⟩
  · refine apart.imp fun {a b} apart dispatch => ?_
    rintro ⟨binding, types, accepted, serves⟩
    obtain ⟨-, -, -, codec, resolved⟩ := entryBinding_ok accepted
    refine ⟨binding, types, accepted, ?_⟩
    refine loadEntry_keeps (P := fun dispatch => dispatch.Serves binding types)
      (fun other others later => ?_) serves
    obtain ⟨-, -, -, otherCodec, otherResolved⟩ := entryBinding_ok later
    have leaves := apart _ _ codec otherCodec
    exact serves.register (leaves.types _ _ resolved otherResolved) (.inr leaves.implementation)

/-- The configured codecs are those of these layouts: each of an implementation of its own and for
record types of its own. -/
structure Plugs (registry : Registry) (services : Services) (configuration : Configuration)
    (layouts : List RecordLayout) : Prop where
  codecs : configuration.entries.zipIdx.map
      (fun item => entryCodec registry.catalog services item.2 item.1) =
    layouts.map fun layout => .ok layout.codec
  faithful : ∀ layout ∈ layouts, layout.Faithful
  types : ∀ layout ∈ layouts, ∀ types, registry.catalog.handledTypes layout.codec = .ok types →
    ∀ type, type ∈ types ↔ ∃ typeName ∈ layout.typeNames, type = .application typeName
  own : ∀ layout ∈ layouts, ∀ binding ∈ Binding.builtIn services,
    binding.implementation ≠ layout.implementation
  apart : layouts.Pairwise fun a b => a.implementation ≠ b.implementation ∧
    ∀ typeName ∈ b.typeNames, typeName ∉ a.typeNames

variable {layouts : List RecordLayout} {layout : RecordLayout}

theorem Plugs.apart_entries (plugs : registry.Plugs services configuration layouts) :
    configuration.entries.zipIdx.Pairwise fun a b => ∀ one other,
      entryCodec registry.catalog services a.2 a.1 = .ok one →
      entryCodec registry.catalog services b.2 b.1 = .ok other →
      one.Apart registry.catalog other := by
  have codecs : (layouts.map fun layout => Except.ok (ε := SetupError) layout.codec).Pairwise
      fun a b => ∀ one other, a = .ok one → b = .ok other → one.Apart registry.catalog other := by
    rw [List.pairwise_map]
    refine plugs.apart.imp_of_mem fun {a b} memA memB apart => ?_
    rintro one other ⟨⟩ ⟨⟩
    refine ⟨apart.1, fun types others resolved otherResolved type handled also => ?_⟩
    obtain ⟨typeName, inB, rfl⟩ := (plugs.types b memB others otherResolved type).1 handled
    obtain ⟨same, inA, here⟩ := (plugs.types a memA types resolved _).1 also
    cases here
    exact apart.2 typeName inB inA
  rw [← plugs.codecs, List.pairwise_map] at codecs
  exact codecs

theorem Plugs.spares (plugs : registry.Plugs services configuration layouts)
    {entry : ConfigurationEntry} (listed : entry ∈ configuration.entries) {position : Nat}
    {codec : Codec} (given : entryCodec registry.catalog services position entry = .ok codec) :
    codec.SparesBuiltIn registry.catalog services := by
  obtain ⟨place, here, entryHere⟩ := List.getElem_of_mem listed
  have item : (entry, place) ∈ configuration.entries.zipIdx := by
    rw [List.mem_zipIdx_iff_getElem?]
    exact List.getElem?_eq_some_iff.2 ⟨here, entryHere⟩
  -- Where an entry stands decides nothing but the report of a missing codec.
  have same : entryCodec registry.catalog services place entry = .ok codec :=
    entryCodec_ok_iff.2 (entryCodec_ok_iff.1 given)
  have mem := List.mem_map_of_mem
    (f := fun item => entryCodec registry.catalog services item.2 item.1) item
  rw [plugs.codecs, same] at mem
  obtain ⟨layout, known, ⟨⟩⟩ := List.mem_map.1 mem
  refine ⟨plugs.own layout known, fun types resolved type handled binding built => ?_⟩
  obtain ⟨typeName, -, rfl⟩ := (plugs.types layout known types resolved type).1 handled
  exact Binding.application_not_mem_types services typeName binding built

theorem Plugs.holdsLayout (plugs : registry.Plugs services configuration layouts)
    (started : (registry.start services configuration).answer = .ok ()) (known : layout ∈ layouts) :
    ∃ id, (registry.start services configuration).registry.dispatch.HoldsLayout id layout := by
  obtain ⟨-, done, after⟩ := of_start_ok started
  have given : Except.ok layout.codec ∈ configuration.entries.zipIdx.map
      fun item => entryCodec registry.catalog services item.2 item.1 := by
    rw [plugs.codecs]
    exact List.mem_map_of_mem known
  obtain ⟨item, listed, given⟩ := List.mem_map.1 given
  obtain ⟨binding, types, accepted, serves⟩ := load_serves done plugs.apart_entries item listed
  obtain ⟨id, foreign, numbered, found, resolved⟩ := entryBinding_ok accepted
  obtain rfl : binding = ⟨.foreign id, layout.codec⟩ := by
    obtain ⟨_, codec⟩ := binding
    cases foreign
    cases given.symm.trans found
    rfl
  have valid : (WireId.foreign id).Valid := Identifier.resolveForeign_valid numbered
  have serves := serves.started
  rw [after]
  refine ⟨id, valid, fun typeName handled => ?_, serves.reader⟩
  exact serves.writer _ ((plugs.types layout known types resolved _).2 ⟨typeName, handled, rfl⟩)

/-- Records on a registry whose other codecs are record codecs. The frame of a record is the header
of its codec, and its fields in order. It is read back field by field, with whatever follows left
over; objects inside come back as they were sent, at any depth that a reader goes to. -/
theorem records_round_trip (started : (registry.start services configuration).answer = .ok ())
    (more : List Operation)
    (running : ∀ front, front <+: more →
      (front.foldl perform (registry.start services configuration).registry).isRunning = true)
    (kept : ∀ type, .unregister type ∉ more) (asGiven : services.commands = .asGiven)
    (declared : ∀ declaration ∈ registry.declared,
      (declaration.make services).SparesBuiltIn registry.catalog services)
    (plugs : registry.Plugs services configuration layouts) (known : layout ∈ layouts)
    {typeName : String} (handled : typeName ∈ layout.typeNames) {fields : List Field}
    (shape : List.Forall₂ Field.Of layout.fields fields)
    (inner : ∀ value, .object value ∈ fields → value.Exchanged layouts)
    (shallow : (Object.record typeName fields).span ≤ Frame.maxNesting) (writing reading : Bool)
    (rest : Bytes) :
    let dispatch := (more.foldl perform (registry.start services configuration).registry).dispatch
    ∃ id, dispatch.writers.get? (.application typeName) = some ⟨.foreign id, layout.codec⟩ ∧
      dispatch.encode writing (.record typeName fields) =
        ⟨.ok (), (WireId.foreign id).header ++ (layout.tag typeName ++
          fields.flatMap (Field.octets fun value => (dispatch.encode writing value).written)), []⟩ ∧
      dispatch.decode reading
          ((dispatch.encode writing (.record typeName fields)).written ++ rest) =
        ⟨.ok (.record typeName (fields.map (Field.arrived services))), rest, []⟩ := by
  intro dispatch
  have tables : dispatch = (registry.start services configuration).registry.dispatch :=
    dispatch_of_running more running kept
  have holds : dispatch.HoldsBuiltIn services := by
    rw [tables]
    exact start_holdsBuiltIn started declared fun entry listed position codec => plugs.spares listed
  have records : ∀ layout ∈ layouts, layout.Faithful ∧ ∃ id, dispatch.HoldsLayout id layout := by
    rw [tables]
    exact fun layout known => ⟨plugs.faithful layout known, plugs.holdsLayout started known⟩
  obtain ⟨faithful, id, held⟩ := records layout known
  refine ⟨id, held.writer typeName handled, ?_, ?_⟩
  · refine held.encode_record faithful handled fun value mem => ?_
    rw [(holds.travels_exchanged asGiven records (inner value mem) writing).written]
  · have travels := holds.travels_exchanged asGiven records (.record known handled shape inner)
    rw [(travels writing).written, Dispatch.decode, (travels reading).read shallow, Object.arrived,
      Field.arrivedAll_eq_map]

/-- Records of a number and a flag, of two types. -/
def gauge : RecordLayout :=
  ⟨"gauge", ⟨some 301, [.exact (.application "B"), .exact (.application "C")]⟩, ["B", "C"],
    [.scalar .int64, .scalar .bool], none⟩

def gauges : Configuration :=
  { Configuration.standard with
    entries := [⟨some caption.codec, none, some 300⟩, ⟨some gauge.codec, none, none⟩] }

theorem plugs_gauges : empty.Plugs .bare gauges [caption, gauge] where
  codecs := rfl
  faithful := by
    rw [List.forall_mem_cons, List.forall_mem_singleton]
    exact ⟨⟨rfl, by decide⟩, ⟨rfl, by decide⟩⟩
  types := by
    rw [List.forall_mem_cons, List.forall_mem_singleton]
    refine ⟨fun types resolved type => ?_, fun types resolved type => ?_⟩
    · cases resolved
      simp [caption]
    · cases resolved
      simp [gauge]
  own := by
    rw [List.forall_mem_cons, List.forall_mem_singleton]
    exact ⟨by decide +kernel, by decide +kernel⟩
  apart := by
    rw [List.pairwise_pair]
    exact ⟨by decide, by decide⟩

/-- A caption for a response that carries a gauge. -/
theorem records_round_trip_gauge :
    let dispatch := (empty.start .bare gauges).registry.dispatch
    let object : Object := .record "A" [.scalar ⟨.text, "h"⟩,
      .object (.success (.record "C" [.scalar ⟨.int64, -1⟩, .scalar ⟨.bool, true⟩]))]
    let octets : Bytes := [255, 0xAC, 0x02, 1, 104, 13, 1,
      255, 0xAD, 0x02, 1, 255, 255, 255, 255, 255, 255, 255, 255, 1]
    dispatch.encode true object = ⟨.ok (), octets, []⟩ ∧
    dispatch.decode false (octets ++ [9]) = ⟨.ok object, [9], []⟩ := by
  intro dispatch object octets
  obtain ⟨started, runs, written⟩ : (empty.start .bare gauges).answer = .ok () ∧
      (empty.start .bare gauges).registry.isRunning = true ∧
      (dispatch.encode true object).written = octets := by decide +kernel
  let reading : Object := .record "C" [.scalar ⟨.int64, -1⟩, .scalar ⟨.bool, true⟩]
  have sent : (Object.success reading).Exchanged [caption, gauge] := by
    have known : gauge ∈ [caption, gauge] := by simp
    apply Object.Exchanged.success
    apply Object.Exchanged.record known (by decide)
    · exact .cons (.scalar (by decide)) (.cons (.scalar (by decide)) .nil)
    · simp
  let fields : List Field := [.scalar ⟨.text, "h"⟩, .object (.success reading)]
  have inner : ∀ value, .object value ∈ fields → value.Exchanged [caption, gauge] := by
    intro value mem
    simp only [fields, List.mem_cons, List.not_mem_nil, Field.object.injEq, reduceCtorEq,
      false_or, or_false] at mem
    rw [mem]
    exact sent
  have shape : List.Forall₂ Field.Of caption.fields fields :=
    .cons (.scalar (by decide)) (.cons .object .nil)
  obtain ⟨id, -, encoded, decoded⟩ := records_round_trip started [] (running_nil_iff.2 runs)
    (fun _ => List.not_mem_nil) rfl (fun _ mem => absurd mem List.not_mem_nil) plugs_gauges
    (.head _) (.head _) shape inner (by decide) true false [9]
  have result : dispatch.encode true object = ⟨.ok (), octets, []⟩ := by
    have encoded : dispatch.encode true object = _ := encoded
    rw [← written, encoded]
  refine ⟨result, ?_⟩
  rw [← written]
  exact decoded

end Registry

end CodecRegistry
