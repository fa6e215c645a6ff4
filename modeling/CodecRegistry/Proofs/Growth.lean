import CodecRegistry.Proofs.Comparison
import CodecRegistry.Proofs.Entries
import CodecRegistry.Proofs.Extension
import CodecRegistry.Proofs.Outcome

/-! A configuration that grows at its end. Entries that come to ids of their own leave every reader
in its place, so whatever could be read before the growth is still read, though the new entries may
write types that other codecs wrote before. The argument follows the tables through the load, and
then the readers through every level of a frame. -/

namespace CodecRegistry.Registry

open Contribution

variable {registry other : Registry} {services : Services} {configuration wider : Configuration}
  {more : List ConfigurationEntry} {contributions : List Contribution}

/-- The id that an entry is loaded under, wherever it stands. -/
def ComesTo (registry : Registry) (services : Services) (entry : ConfigurationEntry) (id : WireId) :
    Prop :=
  ∃ contribution, registry.Enters services entry contribution ∧ contribution.binding.id = id

/-- Entries that come to none of the ids that a configuration uses. -/
def NewIds (registry : Registry) (services : Services) (configuration : Configuration)
    (more : List ConfigurationEntry) : Prop :=
  ∀ entry ∈ more, ∀ known ∈ configuration.entries, ∀ id,
    registry.ComesTo services entry id → ¬ registry.ComesTo services known id

/-- What a start loads depends on nothing but the declarations and the catalog. -/
theorem start_congr (declared : other.declared = registry.declared)
    (catalog : other.catalog = registry.catalog) (stopped : registry.isRunning = false)
    (started : (other.start services configuration).answer = .ok ()) :
    (registry.start services configuration).answer = .ok () ∧
      (registry.start services configuration).registry.dispatch =
        (other.start services configuration).registry.dispatch := by
  have same : other.load services configuration = registry.load services configuration := by
    unfold load
    rw [declared, catalog]
  obtain ⟨-, loaded, there⟩ := of_start_ok started
  rw [same] at loaded there
  have done := (start_ok_iff ..).2 ⟨stopped, loaded⟩
  obtain ⟨-, -, here⟩ := of_start_ok done
  rw [there, here]
  exact ⟨done, rfl⟩

/-- What appended entries contribute comes behind all that was there. -/
theorem exists_yields_append (appended : wider.entries = configuration.entries ++ more)
    (yields : registry.Yields services (registry.loadList configuration) contributions)
    (started : (registry.start services wider).answer = .ok ()) :
    ∃ extra, List.Forall₂ (registry.Enters services) more extra ∧
      registry.Yields services (registry.loadList wider) (contributions ++ extra) := by
  obtain ⟨own, given, rfl, yieldsOwn, paired⟩ := yields_loadList_iff.1 yields
  obtain ⟨all, yieldsAll, -⟩ := exists_yields started
  obtain ⟨-, entered, -, -, pairedAll⟩ := yields_loadList_iff.1 yieldsAll
  have pairedMore := List.forall₂_drop configuration.entries.length pairedAll
  rw [appended, List.drop_left] at pairedMore
  refine ⟨_, pairedMore, yields_loadList_iff.2 ⟨own, _, List.append_assoc .., yieldsOwn, ?_⟩⟩
  rw [appended]
  exact List.rel_append paired pairedMore

/-- Nor do they come to an id of the registry's own part, which is internal. -/
theorem NewIds.id_ne (newIds : registry.NewIds services configuration more)
    (yields : registry.Yields services (registry.loadList configuration) contributions)
    {entry : ConfigurationEntry} (listed : entry ∈ more) {newcomer : Contribution}
    (enters : registry.Enters services entry newcomer) :
    ∀ known ∈ contributions, known.binding.id ≠ newcomer.binding.id := by
  obtain ⟨own, given, rfl, yieldsOwn, paired⟩ := yields_loadList_iff.1 yields
  intro known mem same
  rcases List.mem_append.1 mem with mem | mem
  · have internal := isForeign_own yieldsOwn known mem
    rw [same, enters.isForeign] at internal
    cases internal
  · obtain ⟨before, listedBefore, entersBefore⟩ := exists_entry paired mem
    exact newIds entry listed before listedBefore _ ⟨newcomer, enters, rfl⟩
      ⟨known, entersBefore, same⟩

/-- Readers keep their keys when the configuration grows. -/
theorem reader_survives (appended : wider.entries = configuration.entries ++ more)
    (newIds : registry.NewIds services configuration more)
    (started : (registry.start services configuration).answer = .ok ())
    (startedWider : (registry.start services wider).answer = .ok ())
    {key : FrameKey} {reader : Binding}
    (found : (registry.start services configuration).registry.dispatch.readers.get? key =
      some reader) :
    (registry.start services wider).registry.dispatch.readers.get? key = some reader := by
  obtain ⟨contributions, yields, -⟩ := exists_yields started
  obtain ⟨extra, pairedMore, yieldsWider⟩ := exists_yields_append appended yields startedWider
  have reflects := (yields.reflects_start started).2
  have reflectsWider := (yieldsWider.reflects_start startedWider).2
  rw [reflects.reader, lastUnder?] at found
  obtain ⟨known, mem, atKey, rfl⟩ := mem_of_last? found
  have untouched : lastUnder? extra key = none := by
    refine last?_eq_none_iff.2 fun newcomer came picked => ?_
    obtain ⟨entry, listed, enters⟩ := exists_entry pairedMore came
    refine newIds.id_ne yields listed enters known mem ?_
    exact WireId.key_injective (reflects.valid known mem) enters.valid
      ((of_decide_eq_true atKey).symm.trans (of_decide_eq_true picked))
  rw [reflectsWider.reader, lastUnder?, last?_append, ← lastUnder?, untouched, Option.none_or,
    found]

/-- Whatever reads on a registry that was just started gives up with its nested frames, if what was
declared and configured does. -/
theorem unforgiving_of_started
    (started : (registry.start services configuration).answer = .ok ())
    (declared : ∀ declaration ∈ registry.declared, (declaration.make services).read.Unforgiving)
    (configured : ∀ binding type, registry.Configures services configuration binding type →
      binding.codec.read.Unforgiving)
    {key : FrameKey} {reader : Binding}
    (found : (registry.start services configuration).registry.dispatch.readers.get? key =
      some reader) :
    reader.codec.read.Unforgiving := by
  obtain ⟨-, -, after⟩ := of_start_ok started
  rw [after] at found
  obtain ⟨type, loads⟩ := (load_loadedFrom registry services configuration).started.reader found
  refine loads.read_of ?_ declared configured
  intro declaration builtIn
  exact (Codec.sequential_builtIn services declaration builtIn).lostWith _

/-- Stored frames outlive the growth of a configuration. Entries that are appended to it under ids
of their own change nothing about a frame that could be read before, whatever types they claim, as
long as no codec that read it makes up for a failed nested frame. -/
theorem decode_survives (declaredSame : other.declared = registry.declared)
    (catalogSame : other.catalog = registry.catalog)
    (appended : wider.entries = configuration.entries ++ more)
    (newIds : registry.NewIds services configuration more)
    (started : (registry.start services configuration).answer = .ok ())
    (startedWider : (other.start services wider).answer = .ok ())
    (declared : ∀ declaration ∈ registry.declared, (declaration.make services).read.Unforgiving)
    (configured : ∀ binding type, registry.Configures services configuration binding type →
      binding.codec.read.Unforgiving)
    (cancelled : Bool) (input : Bytes) (value : Object) (rest : Bytes)
    (done : ((registry.start services configuration).registry.dispatch.decode cancelled
      input).Gives value rest) :
    ((other.start services wider).registry.dispatch.decode cancelled input).Gives value rest := by
  have stopped := (of_start_ok started).1
  obtain ⟨startedHere, sameDispatch⟩ := start_congr declaredSame catalogSame stopped startedWider
  rw [← sameDispatch]
  have covers : Dispatch.Covers (fun _ => True) cancelled
      (registry.start services configuration).registry.dispatch
      (registry.start services wider).registry.dispatch := by
    refine ⟨fun {key reader} found => ⟨?_, ?_⟩, fun _ => .inl trivial⟩
    · exact reader_survives appended newIds started startedHere found
    · exact unforgiving_of_started started declared configured found
  obtain ⟨result, left⟩ := done
  obtain ⟨sameResult, sameRest⟩ := (covers.kept_readFrame Frame.maxNesting input).of_ok result
  exact ⟨sameResult, sameRest.trans left⟩

/-- A codec for a type with one object, which needs no payload. -/
def fixed (object : Object) : Codec :=
  ⟨"plug", ⟨none, [.exact object.type]⟩, fun _ => .done, pure object⟩

/-- A newcomer that writes keys, which a built-in codec wrote until then. -/
def keyTaker : ConfigurationEntry := ⟨some (fixed (.key [])), none, some 301⟩

def captionsAndKeys : Configuration :=
  { captions with entries := captions.entries ++ [keyTaker] }

/-- A number that is configured for an entry is the number of its id. -/
theorem ComesTo.number_eq {entry : ConfigurationEntry} {id : WireId} {number : Int64}
    (comes : registry.ComesTo services entry id) (configured : entry.id = some number) :
    (id.number.toNat : Int) = number.toInt := by
  obtain ⟨contribution, enters, rfl⟩ := comes
  cases enters with
  | configured codec same inRange handles =>
    rw [configured] at same
    exact (Option.some.inj same).symm

theorem newIds_keyTaker : empty.NewIds .bare captions [keyTaker] := by
  intro entry listed known listedKnown id comes comesKnown
  obtain rfl := List.mem_singleton.1 listed
  obtain rfl := List.mem_singleton.1 listedKnown
  have new := comes.number_eq rfl
  have used := comesKnown.number_eq rfl
  exact absurd (new.symm.trans used) (by decide)

theorem unforgiving_captions {binding : Binding} {type : ObjectType}
    (configures : empty.Configures .bare captions binding type) :
    binding.codec.read.Unforgiving := by
  obtain ⟨item, listed, types, accepted, -⟩ := configures
  obtain ⟨id, -, -, found, -⟩ := entryBinding_ok accepted
  have only := List.mem_singleton.1 (List.fst_mem_of_mem_zipIdx listed)
  rw [only] at found
  rw [← Except.ok.inj found]
  exact (Codec.RecordLayout.sequential_read caption (by decide)).lostWith _

/-- A record with a response that carries a key, written before keys went to another codec. -/
theorem decode_survives_nested :
    let one := (empty.start .bare captions).registry.dispatch
    let two := (empty.start .bare captionsAndKeys).registry.dispatch
    let frame : Bytes := [255, 0xAC, 0x02, 1, 104, 13, 1, 40, 1, 9]
    (one.encode false (.key [9])).written = [40, 1, 9] ∧
    (two.encode false (.key [9])).written = [255, 0xAD, 0x02] ∧
    ∃ value, (one.decode false (frame ++ [7])).Gives value [7] ∧
      (two.decode false (frame ++ [7])).Gives value [7] := by
  intro one two frame
  obtain ⟨started, startedWider, before, after, isRead, left⟩ :
      (empty.start .bare captions).answer = .ok () ∧
      (empty.start .bare captionsAndKeys).answer = .ok () ∧
      (one.encode false (.key [9])).written = [40, 1, 9] ∧
      (two.encode false (.key [9])).written = [255, 0xAD, 0x02] ∧
      (one.decode false (frame ++ [7])).result.isOk = true ∧
      (one.decode false (frame ++ [7])).rest = [7] := by decide +kernel
  obtain ⟨value, done⟩ : ∃ value, (one.decode false (frame ++ [7])).result = .ok value := by
    cases result : (one.decode false (frame ++ [7])).result with
    | ok value => exact ⟨value, rfl⟩
    | error error =>
      rw [result] at isRead
      cases isRead
  refine ⟨before, after, value, ⟨done, left⟩, ?_⟩
  exact decode_survives rfl rfl rfl newIds_keyTaker started startedWider
    (fun _ mem => absurd mem List.not_mem_nil) (fun _ _ => unforgiving_captions) false
    (frame ++ [7]) value [7] ⟨done, left⟩

end CodecRegistry.Registry
