import CodecRegistry.Proofs.Assembly
import CodecRegistry.Proofs.Loaded
import CodecRegistry.Proofs.Minimal

/-! What every frame begins with. A running registry was filled by one start, which accepted an id
for each of its codecs: a byte, or the configured or declared number of a foreign codec. The header
spells that id and nothing else, so it is read back as the key of its codec, and no header is the
front of another one. -/

namespace CodecRegistry

namespace WireId

theorem key_eq_iff {a b : WireId} (ha : a.Valid) (hb : b.Valid) :
    a.key = b.key ↔ a.isForeign = b.isForeign ∧ a.number = b.number := by
  constructor
  · intro same
    rw [key_injective ha hb same]
    exact ⟨rfl, rfl⟩
  · rintro ⟨namespaces, numbers⟩
    cases a with
    | internal a =>
      cases b with
      | internal b =>
        have same : a = b := UInt8.toUInt32_inj.1 numbers
        rw [same]
      | foreign b => cases namespaces
    | foreign a =>
      cases b with
      | internal b => cases namespaces
      | foreign b =>
        have same : a = b := numbers
        rw [same]

/-- A header in front of a header would be read as both of their keys. -/
theorem key_eq_of_header_prefix {a b : WireId} (ha : a.Valid) (hb : b.Valid)
    (front : a.header <+: b.header) : a.key = b.key := by
  obtain ⟨rest, whole⟩ := front
  have read := Frame.readKey_header ha rest
  have readOther := Frame.readKey_header hb []
  rw [List.append_nil, ← whole, read, Reading.mk.injEq, Except.ok.injEq] at readOther
  exact readOther.1

end WireId

namespace Dispatch

/-- A binding that writes a type or reads the frames of a key. -/
def Has (dispatch : Dispatch) (binding : Binding) : Prop :=
  (∃ type, dispatch.writers.get? type = some binding) ∨
    ∃ key, dispatch.readers.get? key = some binding

variable {dispatch : Dispatch} {binding : Binding}

theorem Consistent.valid_of_has (consistent : dispatch.Consistent) (has : dispatch.Has binding) :
    binding.id.Valid := by
  rcases has with ⟨type, found⟩ | ⟨key, found⟩
  · exact consistent.valid found
  · exact (consistent.keyed found).2

/-- Whatever a codec writes into a frame, and wherever it stops, the header stands in front. -/
theorem header_prefix_encode {object : Object}
    (found : dispatch.writers.get? object.type = some binding) (cancelled : Bool) :
    binding.id.header <+: (dispatch.encode cancelled object).written := by
  rw [encode_of_writer found]
  exact List.prefix_append ..

end Dispatch

namespace Registry

open Dispatch

variable {registry : Registry} {services : Services} {configuration : Configuration}
  {binding : Binding} {type : ObjectType}

/-- The id that a start accepted for a codec, and the header that it makes. An internal id is the
declared number, and a byte below the sentinel. A foreign id is the configured number before the
declared one, and behind the sentinel it stands in its shortest form. -/
inductive Identifies (registry : Registry) (services : Services) (configuration : Configuration) :
    Binding → UInt32 → Bytes → Prop
  | declared {declaration : Declaration} {id : UInt8}
      (known : declaration ∈ Declaration.builtIn ++ registry.declared)
      (accepted : Identifier.checkInternal (declaration.make services).descriptor.id
        (declaration.make services).implementation = .ok id)
      (number : (declaration.make services).descriptor.id.map Int32.toInt = some (id.toNat : Int))
      (inRange : id.toNat ≤ 254) :
      Identifies registry services configuration ⟨.internal id, declaration.make services⟩
        id.toUInt32 [id]
  | configured {entry : ConfigurationEntry} {position : Nat} {codec : Codec} {id : UInt32}
      {number : Bytes} (listed : (entry, position) ∈ configuration.entries.zipIdx)
      (given : entryCodec registry.catalog services position entry = .ok codec)
      (accepted : Identifier.resolveForeign entry.id codec.descriptor.id codec.implementation =
        .ok id)
      (first : (entry.id.map Int64.toInt <|> codec.descriptor.id.map Int32.toInt) =
        some (id.toNat : Int))
      (inRange : id.toNat ≤ 0x7fffffff)
      (shortest : Varint.ShortestForm ScalarKind.varint32.decode id
        (Varint.encodedLength id.toUInt64) number) :
      Identifies registry services configuration ⟨.foreign id, codec⟩ id (255 :: number)

theorem Loads.identifies (loads : registry.Loads services configuration binding type) :
    registry.Identifies services configuration binding binding.id.number binding.id.header := by
  cases loads with
  | declared known accepted resolved handled =>
    obtain ⟨number, inRange⟩ := Identifier.checkInternal_ok_iff.1 accepted
    exact .declared known accepted number inRange
  | configured configures =>
    obtain ⟨⟨entry, position⟩, listed, types, accepted, -⟩ := configures
    obtain ⟨id, foreign, resolved, given, -⟩ := entryBinding_ok accepted
    obtain ⟨first, inRange⟩ := Identifier.resolveForeign_ok_iff.1 resolved
    obtain ⟨wireId, codec⟩ := binding
    obtain rfl : wireId = .foreign id := foreign
    exact .configured listed given resolved first inRange (Varint.shortestForm_varint32 id)

/-- The header in front of every frame identifies the codec that wrote it, on a running registry at
any time, however its codecs behave. It spells the id that the start accepted for that codec; it is
read back as the codec's key, whatever follows it. Keys are equal when namespace and number are, and
of two codecs with different keys neither has its header in front of the other one's. -/
theorem headers_identify (operations : List Operation)
    (running : (after operations).isRunning = true) :
    let dispatch := (after operations).dispatch
    (∃ before services configuration more,
      operations = before ++ .start services configuration :: more ∧
      ((after before).start services configuration).answer = .ok () ∧
      (∀ front, front <+: more →
        (front.foldl perform ((after before).start services configuration).registry).isRunning =
          true) ∧
      ∀ binding, dispatch.Has binding → ∃ id header,
        (after before).Identifies services configuration binding id header ∧
        binding.id.header = header ∧
        (∀ rest, Frame.readKey (header ++ rest) = ⟨.ok binding.key, rest⟩) ∧
        ∀ object : Object, dispatch.writers.get? object.type = some binding →
          dispatch.idOf? object.type = some id ∧
          ∀ cancelled, header <+: (dispatch.encode cancelled object).written) ∧
    ∀ a b, dispatch.Has a → dispatch.Has b →
      (a.key = b.key ↔ a.id.isForeign = b.id.isForeign ∧ a.id.number = b.id.number) ∧
      (a.key ≠ b.key → ¬ a.id.header <+: b.id.header ∧ ¬ b.id.header <+: a.id.header) := by
  intro dispatch
  have consistent : dispatch.Consistent := (sound_after operations).consistent
  refine ⟨?_, fun a b hasA hasB => ?_⟩
  · obtain ⟨before, services, configuration, more, history, started, since⟩ :=
      running_since running
    have loaded := (loadedFrom_of_running started more since).2
    have now : (more.foldl perform
        ((after before).start services configuration).registry) = after operations := by
      rw [history, after_append]
      rfl
    rw [now] at loaded
    refine ⟨before, services, configuration, more, history, started, since, ?_⟩
    intro binding has
    have loads : ∃ type, (after before).Loads services configuration binding type := by
      rcases has with ⟨type, found⟩ | ⟨key, found⟩
      · exact ⟨type, loaded.writer found⟩
      · exact loaded.reader found
    obtain ⟨type, loads⟩ := loads
    refine ⟨_, _, loads.identifies, rfl, Frame.readKey_header loads.valid, ?_⟩
    intro object found
    refine ⟨?_, header_prefix_encode found⟩
    rw [idOf?, found, Option.map_some]
  · have validA := consistent.valid_of_has hasA
    have validB := consistent.valid_of_has hasB
    refine ⟨WireId.key_eq_iff validA validB, fun different => ⟨fun front => ?_, fun front => ?_⟩⟩
    · exact different (WireId.key_eq_of_header_prefix validA validB front)
    · exact different (WireId.key_eq_of_header_prefix validB validA front).symm

/-- A foreign codec under the number 300, which takes two bytes, beside the built-in codec of keys,
which has 40. -/
theorem headers_identify_countings :
    let dispatch := (after [.start .bare countings]).dispatch
    (after [.start .bare countings]).isRunning = true ∧
    (∀ cancelled fields, [255, 172, 2] <+:
      (dispatch.encode cancelled (.record "A" fields)).written) ∧
    dispatch.idOf? (.application "A") = some 300 ∧
    ∃ writer other, dispatch.writers.get? (.application "A") = some writer ∧
      dispatch.writers.get? .key = some other ∧ writer.key ≠ other.key ∧
      ¬ writer.id.header <+: other.id.header := by
  intro dispatch
  obtain ⟨running, foreign, internal⟩ : (after [.start .bare countings]).isRunning = true ∧
      (dispatch.writers.get? (.application "A")).map Binding.id = some (.foreign 300) ∧
      (dispatch.writers.get? .key).map Binding.id = some (.internal 40) := by decide +kernel
  obtain ⟨writer, found, id⟩ := Option.map_eq_some_iff.1 foreign
  obtain ⟨other, foundOther, idOther⟩ := Option.map_eq_some_iff.1 internal
  obtain ⟨⟨before, services, configuration, more, -, -, -, identifies⟩, apart⟩ :=
    headers_identify [.start .bare countings] running
  obtain ⟨number, header, -, same, -, written⟩ := identifies writer (.inl ⟨_, found⟩)
  have spelled : header = [255, 172, 2] := by
    rw [← same, id]
    decide +kernel
  have numbered : dispatch.idOf? (.application "A") = some 300 := by
    rw [idOf?, found, Option.map_some, id]
    rfl
  have keys : writer.key ≠ other.key := by
    rw [Binding.key, Binding.key, id, idOther]
    decide
  refine ⟨running, fun cancelled fields => ?_, numbered, writer, other, found, foundOther, keys, ?_⟩
  · rw [← spelled]
    exact (written (.record "A" fields) found).2 cancelled
  · exact ((apart writer other (.inl ⟨_, found⟩) (.inl ⟨_, foundOther⟩)).2 keys).1

end Registry

end CodecRegistry
