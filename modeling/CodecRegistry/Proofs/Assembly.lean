import CodecRegistry.Codec.Records
import CodecRegistry.Proofs.Contribution

/-! What a start puts together. Each contribution goes over those before it: it takes its types and
its key, unless another implementation holds the key. So the tables show, for every type and for
every key, the last contribution that claims it. The induction is on the items that are loaded,
with the contributions so far as what the tables reflect. -/

namespace CodecRegistry

namespace Dispatch

variable {dispatch : Dispatch} {binding : Binding} {type : ObjectType} {types : List ObjectType}

theorem rival?_bind (dispatch : Dispatch) (type : ObjectType) (binding : Binding) :
    (dispatch.bind type binding).rival? binding = none := by
  rw [rival?_eq_none_iff]
  intro existing found
  rw [reader_bind, if_pos rfl] at found
  obtain rfl := Option.some.inj found
  exact binding.sameAs_refl

/-- Registering goes on with the types behind the first one. -/
theorem register_cons (free : dispatch.rival? binding = none) (type : ObjectType)
    (types : List ObjectType) :
    (register binding (type :: types) dispatch).result =
        (register binding types (dispatch.bind type binding)).result ∧
      (register binding (type :: types) dispatch).dispatch =
        (register binding types (dispatch.bind type binding)).dispatch := by
  simp only [register, Loading.each, free, Loading.andThen, and_self]

/-- A rival can only stand in the way of the first type: from then on the key is taken. -/
theorem register_ok (free : dispatch.rival? binding = none) :
    (register binding types dispatch).result = .ok () := by
  induction types generalizing dispatch with
  | nil => rfl
  | cons type rest ih =>
    rw [(register_cons free type rest).1]
    exact ih (rival?_bind ..)

theorem rival?_of_register (named : types ≠ [])
    (done : (register binding types dispatch).result = .ok ()) :
    dispatch.rival? binding = none := by
  obtain ⟨type, rest, rfl⟩ := List.exists_cons_of_ne_nil named
  cases rival : dispatch.rival? binding with
  | none => rfl
  | some existing => simp [register, Loading.each, rival, Loading.andThen] at done

theorem writers_register (free : dispatch.rival? binding = none) (other : ObjectType) :
    (register binding types dispatch).dispatch.writers.get? other =
      if other ∈ types then some binding else dispatch.writers.get? other := by
  induction types generalizing dispatch with
  | nil => rfl
  | cons type rest ih =>
    rw [(register_cons free type rest).2, ih (rival?_bind ..), writer_bind]
    by_cases here : other = type <;> simp [here]

theorem readers_register (free : dispatch.rival? binding = none) (named : types ≠ [])
    (key : FrameKey) :
    (register binding types dispatch).dispatch.readers.get? key =
      if key = binding.key then some binding else dispatch.readers.get? key := by
  obtain ⟨type, rest, rfl⟩ := List.exists_cons_of_ne_nil named
  rw [(register_cons free type rest).2]
  clear free named
  induction rest generalizing dispatch type with
  | nil => exact reader_bind ..
  | cons next rest ih =>
    rw [(register_cons (rival?_bind ..) next rest).2, ih, reader_bind]
    split <;> rfl

end Dispatch

namespace Contribution

variable {contributions : List Contribution}

/-- The binding of the last contribution that is picked. -/
def last? (contributions : List Contribution) (picks : Contribution → Bool) : Option Binding :=
  (contributions.filter picks).getLast?.map binding

/-- Who comes last to handle a type. -/
def lastFor? (contributions : List Contribution) (type : ObjectType) : Option Binding :=
  last? contributions fun contribution => type ∈ contribution.types

/-- Who comes last to a key. -/
def lastUnder? (contributions : List Contribution) (key : FrameKey) : Option Binding :=
  last? contributions fun contribution => key = contribution.binding.key

/-- Where several come to one key, they are of one implementation. -/
def Agree (contributions : List Contribution) : Prop :=
  ∀ a ∈ contributions, ∀ b ∈ contributions, a.binding.key = b.binding.key →
    a.binding.implementation = b.binding.implementation

theorem last?_concat (contributions : List Contribution) (contribution : Contribution)
    (picks : Contribution → Bool) :
    last? (contributions ++ [contribution]) picks =
      if picks contribution then some contribution.binding else last? contributions picks := by
  by_cases picked : picks contribution <;> simp [last?, List.filter_append, picked]

theorem mem_of_last? {picks : Contribution → Bool} {binding : Binding}
    (found : last? contributions picks = some binding) :
    ∃ contribution ∈ contributions, picks contribution = true ∧
      contribution.binding = binding := by
  obtain ⟨contribution, last, same⟩ := Option.map_eq_some_iff.1 found
  obtain ⟨mem, picked⟩ := List.mem_filter.1 (List.mem_of_getLast? last)
  exact ⟨contribution, mem, picked, same⟩

theorem exists_last? {picks : Contribution → Bool} {contribution : Contribution}
    (mem : contribution ∈ contributions) (picked : picks contribution = true) :
    ∃ binding, last? contributions picks = some binding := by
  have some_picked : contributions.filter picks ≠ [] :=
    List.ne_nil_of_mem (List.mem_filter.2 ⟨mem, picked⟩)
  exact ⟨_, by rw [last?, List.getLast?_eq_some_getLast some_picked, Option.map_some]⟩

theorem Agree.mono {others : List Contribution} (agree : Agree contributions)
    (subset : others ⊆ contributions) : Agree others := by
  intro a memA b memB
  exact agree a (subset memA) b (subset memB)

end Contribution

namespace Dispatch

open Contribution

variable {dispatch : Dispatch} {contributions : List Contribution} {contribution : Contribution}

/-- The tables show the last of the contributions that claims a type or a key. -/
structure Reflects (dispatch : Dispatch) (contributions : List Contribution) : Prop where
  writer : ∀ type, dispatch.writers.get? type = lastFor? contributions type
  reader : ∀ key, dispatch.readers.get? key = lastUnder? contributions key
  valid : ∀ contribution ∈ contributions, contribution.binding.id.Valid
  agree : Agree contributions

theorem reflects_empty : empty.Reflects [] where
  writer := fun _ => rfl
  reader := fun _ => rfl
  valid := by simp
  agree := by simp [Agree]

theorem Reflects.started (reflects : dispatch.Reflects contributions) :
    { dispatch with isRunning := true }.Reflects contributions :=
  ⟨reflects.writer, reflects.reader, reflects.valid, reflects.agree⟩

/-- A rival stands in the way of a contribution that does not agree with those before it. -/
theorem Reflects.rival?_eq_none_iff (reflects : dispatch.Reflects contributions)
    (valid : contribution.binding.id.Valid) :
    dispatch.rival? contribution.binding = none ↔ Agree (contributions ++ [contribution]) := by
  rw [Dispatch.rival?_eq_none_iff, reflects.reader]
  constructor
  · intro alike
    have same : ∀ other ∈ contributions, other.binding.key = contribution.binding.key →
        other.binding.implementation = contribution.binding.implementation := by
      intro other mem key
      obtain ⟨existing, found⟩ : ∃ existing,
          lastUnder? contributions contribution.binding.key = some existing :=
        exists_last? mem (decide_eq_true key.symm)
      have like := alike existing found
      -- The table shows only the last one under the key, and those before agree with it.
      obtain ⟨last, lastMem, lastKey, rfl⟩ := mem_of_last? found
      simp only [Binding.sameAs, decide_eq_true_eq] at like lastKey
      exact (reflects.agree other mem last lastMem (key.trans lastKey)).trans like.2
    intro a memA b memB key
    rcases List.mem_append.1 memA with beforeA | hereA <;>
      rcases List.mem_append.1 memB with beforeB | hereB
    · exact reflects.agree a beforeA b beforeB key
    · obtain rfl := List.mem_singleton.1 hereB
      exact same a beforeA key
    · obtain rfl := List.mem_singleton.1 hereA
      exact (same b beforeB key.symm).symm
    · rw [List.mem_singleton.1 hereA, List.mem_singleton.1 hereB]
  · intro agree existing found
    obtain ⟨other, mem, picked, rfl⟩ := mem_of_last? found
    have key : other.binding.key = contribution.binding.key := (of_decide_eq_true picked).symm
    have id := WireId.key_injective (reflects.valid other mem) valid key
    have implementation := agree other (List.mem_append_left _ mem) contribution (by simp) key
    simp only [Binding.sameAs, id, implementation, and_self, decide_true]

/-- A contribution that agrees with those before it goes over them. -/
theorem Reflects.register (reflects : dispatch.Reflects contributions)
    (valid : contribution.binding.id.Valid) (named : contribution.types ≠ [])
    (agree : Agree (contributions ++ [contribution])) :
    (register contribution.binding contribution.types dispatch).dispatch.Reflects
      (contributions ++ [contribution]) where
  writer := by
    intro type
    rw [writers_register ((reflects.rival?_eq_none_iff valid).2 agree), lastFor?, last?_concat,
      reflects.writer]
    simp only [decide_eq_true_eq]
    rfl
  reader := by
    intro key
    rw [readers_register ((reflects.rival?_eq_none_iff valid).2 agree) named, lastUnder?,
      last?_concat, reflects.reader]
    simp only [decide_eq_true_eq]
    rfl
  valid := by
    intro other mem
    rcases List.mem_append.1 mem with before | here
    · exact reflects.valid other before
    · exact List.mem_singleton.1 here ▸ valid
  agree := agree

end Dispatch

namespace Registry

open Contribution

variable {registry : Registry} {services : Services} {configuration : Configuration}
  {items : List LoadItem} {contributions before : List Contribution} {dispatch : Dispatch}

/-- Items that are loaded to the end are in order. -/
theorem yields_of_each
    (done : (Loading.each (registry.loadItem services) items dispatch).result = .ok ()) :
    ∃ contributions, registry.Yields services items contributions := by
  induction items generalizing dispatch with
  | nil => exact ⟨[], .nil⟩
  | cons item rest ih =>
    obtain ⟨first, later⟩ := (Loading.andThen_ok_iff ..).1 done
    obtain ⟨contributions, others⟩ := ih later
    rcases contributes_or_leavesOut first with ⟨contribution, contributes⟩ | leavesOut
    · exact ⟨contribution :: contributions, .contributes contributes others⟩
    · exact ⟨contributions, .leavesOut leavesOut others⟩

/-- Items in order are loaded to the end if their contributions agree. -/
theorem Yields.each_ok (yields : registry.Yields services items contributions)
    (reflects : dispatch.Reflects before) (agree : Agree (before ++ contributions)) :
    (Loading.each (registry.loadItem services) items dispatch).result = .ok () := by
  induction yields generalizing dispatch before with
  | nil => rfl
  | @contributes item contribution rest later first others ih =>
    rw [List.append_cons] at agree
    have upTo := agree.mono (List.subset_append_left ..)
    refine (Loading.andThen_ok_iff ..).2 ⟨?_, ?_⟩
    · rw [first.loadItem]
      exact Dispatch.register_ok ((reflects.rival?_eq_none_iff first.valid).2 upTo)
    · rw [first.loadItem]
      exact ih (reflects.register first.valid first.types_ne_nil upTo) agree
  | leavesOut first others ih =>
    obtain ⟨done, same⟩ := first.loadItem dispatch
    refine (Loading.andThen_ok_iff ..).2 ⟨done, ?_⟩
    rw [same]
    exact ih reflects agree

/-- When they are loaded, the tables show them. -/
theorem Yields.each_reflects (yields : registry.Yields services items contributions)
    (reflects : dispatch.Reflects before)
    (done : (Loading.each (registry.loadItem services) items dispatch).result = .ok ()) :
    (Loading.each (registry.loadItem services) items dispatch).dispatch.Reflects
      (before ++ contributions) := by
  induction yields generalizing dispatch before with
  | nil => simpa [Loading.each] using reflects
  | @contributes item contribution rest later first others ih =>
    obtain ⟨here, done⟩ := (Loading.andThen_ok_iff ..).1 done
    rw [Loading.each, Loading.dispatch_andThen here, List.append_cons]
    rw [first.loadItem] at here done ⊢
    -- The step went through, so there was no rival: that the list so far agrees follows from it.
    have free := Dispatch.rival?_of_register first.types_ne_nil here
    exact ih (reflects.register first.valid first.types_ne_nil
      ((reflects.rival?_eq_none_iff first.valid).1 free)) done
  | leavesOut first others ih =>
    obtain ⟨here, same⟩ := first.loadItem dispatch
    obtain ⟨-, done⟩ := (Loading.andThen_ok_iff ..).1 done
    rw [Loading.each, Loading.dispatch_andThen here]
    rw [same] at done ⊢
    exact ih reflects done

theorem each_ok_iff (items : List LoadItem) :
    (Loading.each (registry.loadItem services) items .empty).result = .ok () ↔
      ∃ contributions, registry.Yields services items contributions ∧ Agree contributions := by
  constructor
  · intro done
    obtain ⟨contributions, yields⟩ := yields_of_each done
    exact ⟨contributions, yields, (yields.each_reflects Dispatch.reflects_empty done).agree⟩
  · rintro ⟨contributions, yields, agree⟩
    exact yields.each_ok Dispatch.reflects_empty agree

theorem start_ok_iff (registry : Registry) (services : Services) (configuration : Configuration) :
    (registry.start services configuration).answer = .ok () ↔
      registry.isRunning = false ∧ (registry.load services configuration).result = .ok () := by
  unfold start
  split
  · rename_i running
    simp [running]
  · rename_i stopped
    dsimp only
    split
    · rename_i error failed
      simp [failed]
    · rename_i done
      simp [stopped, done]

/-- A start succeeds on a stopped registry when every item of its list is in order and what they
contribute agrees. The tables then show who comes last to each type and to each key; nothing else of
the registry changes, and a start that fails changes nothing at all. -/
theorem start_reflects (registry : Registry) (services : Services)
    (configuration : Configuration) :
    ((registry.start services configuration).answer = .ok () ↔
      registry.isRunning = false ∧ ∃ contributions,
        registry.Yields services (registry.loadList configuration) contributions ∧
          Agree contributions) ∧
    (∀ contributions, registry.Yields services (registry.loadList configuration) contributions →
      (registry.start services configuration).answer = .ok () →
        let after := (registry.start services configuration).registry
        after.isRunning = true ∧ after.declared = registry.declared ∧
        after.catalog = registry.catalog ∧
        (∀ type, after.dispatch.writers.get? type = lastFor? contributions type) ∧
        ∀ key, after.dispatch.readers.get? key = lastUnder? contributions key) ∧
    ∀ error, (registry.start services configuration).answer = .error error →
      (registry.start services configuration).registry = registry := by
  refine ⟨?_, ?_, ?_⟩
  · rw [start_ok_iff, load_eq_each, each_ok_iff]
  · intro contributions yields ok
    rcases start_cases registry services configuration with
      ⟨error, failed, -⟩ | ⟨-, done, -, after⟩
    · cases ok.symm.trans failed
    · rw [load_eq_each] at done
      have reflects := (yields.each_reflects Dispatch.reflects_empty done).started
      rw [← load_eq_each, List.nil_append] at reflects
      rw [after]
      exact ⟨rfl, rfl, rfl, reflects.writer, reflects.reader⟩
  · intro error failed
    rcases start_cases registry services configuration with ⟨-, -, same⟩ | ⟨-, -, ok, -⟩
    · exact same
    · cases ok.symm.trans failed

/-- Records of a number. All of these codecs are of one implementation. -/
def counting (typeName : String) : Codec.RecordLayout :=
  ⟨"plug", ⟨none, [.exact (.application typeName)]⟩, [typeName], [.scalar .byte], none⟩

/-- Two of them under one id. -/
def countings : Configuration :=
  { Configuration.standard with
    entries := ["A", "B"].map fun typeName => ⟨some (counting typeName).codec, none, some 300⟩ }

/-- Each keeps its type, and the second one takes the key. -/
theorem start_reflects_countings :
    (empty.start .bare countings).answer = .ok () ∧
    ∃ contributions, empty.Yields .bare (empty.loadList countings) contributions ∧
      Agree contributions ∧
      (lastFor? contributions (.application "A")).map Binding.types =
        some [.application "A"] ∧
      (lastUnder? contributions (.foreign 300)).map Binding.types = some [.application "B"] := by
  obtain ⟨started, writes, reads⟩ : (empty.start .bare countings).answer = .ok () ∧
      ((empty.start .bare countings).registry.dispatch.writers.get? (.application "A")).map
        Binding.types = some [.application "A"] ∧
      ((empty.start .bare countings).registry.dispatch.readers.get? (.foreign 300)).map
        Binding.types = some [.application "B"] := by decide +kernel
  obtain ⟨succeeds, shows, -⟩ := start_reflects empty .bare countings
  obtain ⟨-, contributions, yields, agree⟩ := succeeds.1 started
  obtain ⟨-, -, -, writer, reader⟩ := shows contributions yields started
  refine ⟨started, contributions, yields, agree, ?_, ?_⟩
  · rw [← writer]
    exact writes
  · rw [← reader]
    exact reads

end Registry

end CodecRegistry
