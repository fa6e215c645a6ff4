import CodecRegistry.Proofs.Comparison
import CodecRegistry.Proofs.Entries
import CodecRegistry.Proofs.Outcome

/-! The order in which a configuration lists its entries. It decides neither whether a registry
starts nor which implementation reads a frame. Where several entries come to one id it decides which
of their codecs reads, and where several handle one type it decides under which id the type is
written; apart from these two, nodes that list the same entries in different orders do the same. -/

namespace CodecRegistry.Registry

open Contribution

variable {registry : Registry} {services : Services} {configuration other : Configuration}
  {contributions : List Contribution}

/-- Entries that come to one id give one codec. -/
def OneCodecPerId (registry : Registry) (services : Services) (configuration : Configuration) :
    Prop :=
  ∀ a aType b bType, registry.Configures services configuration a aType →
    registry.Configures services configuration b bType → a.id = b.id → a.codec = b.codec

/-- Entries that handle one type come to one id. -/
def OneIdPerType (registry : Registry) (services : Services) (configuration : Configuration) :
    Prop :=
  ∀ a b type, registry.Configures services configuration a type →
    registry.Configures services configuration b type → a.id = b.id

/-- With the entries, what they contribute changes places; the registry's own part stays. -/
theorem exists_yields_perm (same : configuration.entries.Perm other.entries)
    (yields : registry.Yields services (registry.loadList configuration) contributions) :
    ∃ own given moved, contributions = own ++ given ∧ given.Perm moved ∧
      List.Forall₂ (registry.Enters services) configuration.entries given ∧
      registry.Yields services (registry.loadList other) (own ++ moved) := by
  obtain ⟨own, given, rfl, yieldsOwn, paired⟩ := yields_loadList_iff.1 yields
  obtain ⟨moved, pairedOther, perm⟩ := List.perm_comp_forall₂ same.symm paired
  exact ⟨own, given, moved, rfl, perm.symm, paired,
    yields_loadList_iff.2 ⟨own, moved, rfl, yieldsOwn, pairedOther⟩⟩

theorem start_ok_of_perm (same : configuration.entries.Perm other.entries)
    (started : (registry.start services configuration).answer = .ok ()) :
    (registry.start services other).answer = .ok () := by
  obtain ⟨contributions, yields, agree⟩ := exists_yields started
  obtain ⟨own, given, moved, rfl, perm, -, yieldsOther⟩ := exists_yields_perm same yields
  have stopped := (of_start_ok started).1
  exact start_ok_of_yields stopped yieldsOther (agree.perm (perm.append_left own))

/-- Contributions of one id are one binding where no two codecs share an id. -/
theorem OneCodecPerId.binding_eq (oneCodec : registry.OneCodecPerId services configuration)
    {given : List Contribution}
    (paired : List.Forall₂ (registry.Enters services) configuration.entries given)
    {a b : Contribution} (memA : a ∈ given) (memB : b ∈ given)
    (sameId : a.binding.id = b.binding.id) : a.binding = b.binding := by
  obtain ⟨entryA, listedA, entersA⟩ := exists_entry paired memA
  obtain ⟨entryB, listedB, entersB⟩ := exists_entry paired memB
  obtain ⟨typeA, handledA⟩ := entersA.exists_handled
  obtain ⟨typeB, handledB⟩ := entersB.exists_handled
  have sameCodec := oneCodec _ _ _ _ (entersA.configures listedA handledA)
    (entersB.configures listedB handledB) sameId
  generalize a.binding = one at sameId sameCodec
  generalize b.binding = two at sameId sameCodec
  cases one
  cases two
  cases sameId
  cases sameCodec
  rfl

/-- Two nodes whose configurations list the same entries in different orders start alike, and have
the same implementation at each key. They read alike if no two codecs share an id, and then write
alike too if no type comes to two ids. -/
theorem start_perm (registry : Registry) (services : Services)
    {configuration other : Configuration} (same : configuration.entries.Perm other.entries) :
    ((registry.start services configuration).answer = .ok () ↔
      (registry.start services other).answer = .ok ()) ∧
    ((registry.start services configuration).answer = .ok () →
      let one := (registry.start services configuration).registry.dispatch
      let two := (registry.start services other).registry.dispatch
      (∀ key, (one.readers.get? key).map Binding.implementation =
        (two.readers.get? key).map Binding.implementation) ∧
      (registry.OneCodecPerId services configuration →
        (∀ cancelled input,
          (one.decode cancelled input).result = (two.decode cancelled input).result ∧
          (one.decode cancelled input).rest = (two.decode cancelled input).rest) ∧
        (registry.OneIdPerType services configuration → ∀ cancelled object,
          one.encode cancelled object = two.encode cancelled object))) := by
  refine ⟨⟨start_ok_of_perm same, start_ok_of_perm same.symm⟩, fun started => ?_⟩
  intro one two
  obtain ⟨contributions, yields, agree⟩ := exists_yields started
  obtain ⟨own, given, moved, rfl, perm, paired, yieldsOther⟩ := exists_yields_perm same yields
  obtain ⟨running, reflects⟩ := yields.reflects_start started
  obtain ⟨runningOther, reflectsOther⟩ := yieldsOther.reflects_start (start_ok_of_perm same started)
  refine ⟨fun key => ?_, fun oneCodec => ?_⟩
  · rw [reflects.reader, reflectsOther.reader]
    refine last?_map_perm (perm.append_left own) fun a memA b memB pickedA pickedB => ?_
    exact agree a memA b memB
      ((of_decide_eq_true pickedA).symm.trans (of_decide_eq_true pickedB))
  have alike : ∀ a ∈ given, ∀ b ∈ given, a.binding.id = b.binding.id → a.binding = b.binding :=
    fun a memA b memB => oneCodec.binding_eq paired memA memB
  have readers (key : FrameKey) : one.readers.get? key = two.readers.get? key := by
    rw [reflects.reader, reflectsOther.reader, lastUnder?, lastUnder?, last?_append, last?_append]
    congr 1
    refine last?_perm perm fun a memA b memB pickedA pickedB => alike a memA b memB ?_
    refine WireId.key_injective (reflects.valid a (List.mem_append_right _ memA))
      (reflects.valid b (List.mem_append_right _ memB)) ?_
    exact (of_decide_eq_true pickedA).symm.trans (of_decide_eq_true pickedB)
  refine ⟨fun cancelled input => ?_, fun oneId cancelled object => ?_⟩
  · obtain ⟨result, rest⟩ := Dispatch.readFrame_congr (running.trans runningOther.symm) readers
      cancelled Frame.maxNesting input
    exact ⟨result.symm, rest.symm⟩
  · refine Dispatch.encode_congr (fun type => ?_) cancelled object
    rw [reflects.writer, reflectsOther.writer, lastFor?, lastFor?, last?_append, last?_append]
    congr 1
    refine last?_perm perm fun a memA b memB pickedA pickedB => alike a memA b memB ?_
    exact oneId _ _ type (configures_given paired memA (of_decide_eq_true pickedA))
      (configures_given paired memB (of_decide_eq_true pickedB))

/-- Two records, each under an id of its own. -/
def aFirst : Configuration :=
  { Configuration.standard with
    entries := [⟨some (counting "A").codec, none, some 300⟩,
      ⟨some (counting "B").codec, none, some 301⟩] }

def bFirst : Configuration := { aFirst with entries := aFirst.entries.reverse }

theorem configures_aFirst {binding : Binding} {type : ObjectType}
    (configures : empty.Configures .bare aFirst binding type) :
    binding = ⟨.foreign 300, (counting "A").codec⟩ ∧ type = .application "A" ∨
      binding = ⟨.foreign 301, (counting "B").codec⟩ ∧ type = .application "B" := by
  obtain ⟨item, listed, types, accepted, handled⟩ := configures
  have either : item = (⟨some (counting "A").codec, none, some 300⟩, 0) ∨
      item = (⟨some (counting "B").codec, none, some 301⟩, 1) := by
    simpa [aFirst] using listed
  rcases either with rfl | rfl
  · left
    cases accepted
    exact ⟨rfl, List.mem_singleton.1 handled⟩
  · right
    cases accepted
    exact ⟨rfl, List.mem_singleton.1 handled⟩

/-- The same on both nodes, and a record that both write and read. -/
theorem start_perm_reversed :
    (empty.start .bare bFirst).answer = .ok () ∧
    let one := (empty.start .bare aFirst).registry.dispatch
    let two := (empty.start .bare bFirst).registry.dispatch
    let object : Object := .record "B" [.scalar ⟨.byte, 7⟩]
    (∀ cancelled input,
      (one.decode cancelled input).result = (two.decode cancelled input).result ∧
      (one.decode cancelled input).rest = (two.decode cancelled input).rest) ∧
    (∀ cancelled object, one.encode cancelled object = two.encode cancelled object) ∧
    (one.encode true object).written = [255, 0xAD, 0x02, 7] ∧
    (two.encode true object).written = [255, 0xAD, 0x02, 7] ∧
    (one.decode false [255, 0xAD, 0x02, 7, 1]).Gives object [1] ∧
    (two.decode false [255, 0xAD, 0x02, 7, 1]).Gives object [1] ∧
    (one.readers.get? (.foreign 301)).map Binding.types = some [.application "B"] ∧
    (two.readers.get? (.foreign 301)).map Binding.types = some [.application "B"] := by
  have started : (empty.start .bare aFirst).answer = .ok () := by decide +kernel
  have oneCodec : empty.OneCodecPerId .bare aFirst := by
    intro a aType b bType first second sameId
    rcases configures_aFirst first with ⟨rfl, -⟩ | ⟨rfl, -⟩ <;>
      rcases configures_aFirst second with ⟨rfl, -⟩ | ⟨rfl, -⟩
    · rfl
    · cases sameId
    · cases sameId
    · rfl
  have oneId : empty.OneIdPerType .bare aFirst := by
    intro a b type first second
    rcases configures_aFirst first with ⟨rfl, typeA⟩ | ⟨rfl, typeA⟩ <;>
      rcases configures_aFirst second with ⟨rfl, typeB⟩ | ⟨rfl, typeB⟩
    · rfl
    · exact absurd (typeA.symm.trans typeB) (by decide)
    · exact absurd (typeA.symm.trans typeB) (by decide)
    · rfl
  have same : aFirst.entries.Perm bFirst.entries := (List.reverse_perm aFirst.entries).symm
  obtain ⟨both, agree⟩ := start_perm empty .bare same
  obtain ⟨-, alike⟩ := agree started
  obtain ⟨reads, writes⟩ := alike oneCodec
  refine ⟨both.1 started, ?_⟩
  intro one two object
  obtain ⟨written, reader, readerToo⟩ : (one.encode true object).written = [255, 0xAD, 0x02, 7] ∧
      (one.readers.get? (.foreign 301)).map Binding.types = some [.application "B"] ∧
      (two.readers.get? (.foreign 301)).map Binding.types = some [.application "B"] := by
    decide +kernel
  have given : (one.decode false [255, 0xAD, 0x02, 7, 1]).Gives object [1] := ⟨rfl, rfl⟩
  obtain ⟨result, rest⟩ := reads false [255, 0xAD, 0x02, 7, 1]
  refine ⟨reads, writes oneId, written, ?_, given, ⟨result.symm.trans given.1,
    rest.symm.trans given.2⟩, reader, readerToo⟩
  rw [← writes oneId]
  exact written

end CodecRegistry.Registry
