import CodecRegistry.Proofs.Assembly

/-! Registering a codec for its types. Whether another one holds its key is asked again for every
type, when earlier ones are already bound, and yet nothing is ever bound halfway: the first type
takes the key, and no binding is its own rival. Bindings meet at a key only within one namespace, so
what keeps one from its key is always another implementation. -/

namespace CodecRegistry

/-- Putting a value where it stands changes nothing. -/
theorem FiniteMap.insert_of_get? {κ α : Type} [DecidableEq κ] {map : FiniteMap κ α} {key : κ}
    {value : α} (known : map.get? key = some value) : map.insert key value = map := by
  obtain ⟨entries, distinct⟩ := map
  apply ext_entries
  simp only [get?, insert] at known ⊢
  clear distinct
  induction entries with
  | nil => cases known
  | cons entry rest ih =>
    obtain ⟨other, old⟩ := entry
    by_cases here : other = key
    · rw [find, if_pos here] at known
      rw [place, if_pos here, here, Option.some.inj known]
    · rw [find, if_neg here] at known
      rw [place, if_neg here, ih known]

namespace WireId

variable {a b : WireId}

/-- The namespaces share no key, whatever the ids. -/
theorem key_internal_ne_foreign (id : UInt8) (other : UInt32) :
    (internal id).key ≠ (foreign other).key := by
  intro same
  have word : (internal id).key.word.toNat = (foreign other).key.word.toNat := by rw [same]
  have flagged : 2 ^ 31 ≤ (foreign other).key.word.toNat := by
    show FrameKey.foreignFlag.toNat ≤ (FrameKey.foreignFlag ||| other).toNat
    rw [UInt32.toNat_or]
    exact Nat.left_le_or
  have small := id.toNat_lt
  rw [toNat_key_internal] at word
  omega

/-- Frames that are looked up under one key begin alike. -/
theorem frameByte_of_key (same : a.key = b.key) : a.frameByte = b.frameByte := by
  cases a with
  | internal a =>
    cases b with
    | internal b =>
      have word : (internal a).key.word.toNat = (internal b).key.word.toNat := by rw [same]
      exact UInt8.toNat_inj.1 word
    | foreign b => exact absurd same (key_internal_ne_foreign a b)
  | foreign a =>
    cases b with
    | internal b => exact absurd same.symm (key_internal_ne_foreign b a)
    | foreign b => rfl

end WireId

theorem Binding.sameAs_iff_of_key {a b : Binding} (same : a.key = b.key) :
    a.sameAs b = true ↔ a.implementation = b.implementation := by
  rw [sameAs, decide_eq_true_eq, and_iff_right (WireId.frameByte_of_key same)]

namespace Dispatch

variable {dispatch : Dispatch} {binding existing : Binding} {type : ObjectType}
  {types : List ObjectType}

/-- Every reader stands at its own key. -/
def Keyed (dispatch : Dispatch) : Prop :=
  ∀ {key reader}, dispatch.readers.get? key = some reader → key = reader.key

theorem keyed_empty : empty.Keyed := by
  intro key reader found
  cases found

theorem Keyed.bind (keyed : dispatch.Keyed) (type : ObjectType) (binding : Binding) :
    (dispatch.bind type binding).Keyed := by
  intro key reader found
  rw [reader_bind] at found
  split at found
  · rename_i here
    exact here.trans (congrArg Binding.key (Option.some.inj found))
  · exact keyed found

theorem Keyed.register (keyed : dispatch.Keyed) (binding : Binding) (types : List ObjectType) :
    (register binding types dispatch).dispatch.Keyed :=
  register_keeps (P := fun dispatch => dispatch.Keyed)
    (fun type _ _ _ keyed => keyed.bind type binding) keyed

/-- What keeps a binding from its key is the reader there, if it has another implementation. -/
theorem Keyed.rival?_eq_some_iff (keyed : dispatch.Keyed) :
    dispatch.rival? binding = some existing ↔
      dispatch.readers.get? binding.key = some existing ∧
        existing.implementation ≠ binding.implementation := by
  simp only [rival?, Option.filter_eq_some_iff, Bool.not_eq_true']
  refine and_congr_right fun found => ?_
  rw [← Bool.not_eq_true, Binding.sameAs_iff_of_key (keyed found).symm]

theorem register_of_rival (rival : dispatch.rival? binding = some existing)
    (types : List ObjectType) :
    register binding (type :: types) dispatch =
      ⟨.error (.duplicateId binding.id.number type binding.implementation
        existing.implementation binding.key), dispatch, []⟩ := by
  simp only [register, Loading.each, rival, Loading.andThen]

/-- No binding keeps itself from its key. -/
theorem rival?_of_reader (reads : dispatch.readers.get? binding.key = some binding) :
    dispatch.rival? binding = none := by
  rw [rival?_eq_none_iff]
  intro existing found
  obtain rfl := Option.some.inj (reads.symm.trans found)
  exact binding.sameAs_refl

/-- Binding types that are bound like this succeeds and changes nothing. -/
theorem register_bound (writes : ∀ type ∈ types, dispatch.writers.get? type = some binding)
    (reads : dispatch.readers.get? binding.key = some binding) :
    (register binding types dispatch).result = .ok () ∧
      (register binding types dispatch).dispatch = dispatch := by
  refine ⟨register_ok (rival?_of_reader reads), ?_⟩
  refine register_keeps (P := fun later => later = dispatch) (fun type mem later _ same => ?_) rfl
  subst same
  simp only [bind, FiniteMap.insert_of_get? (writes type mem), FiniteMap.insert_of_get? reads]

end Dispatch

namespace Registry

/-- The tables of a start that has loaded so many items. -/
def loadedFirst (registry : Registry) (services : Services) (configuration : Configuration)
    (count : Nat) : Dispatch :=
  (Loading.each (registry.loadItem services) ((registry.loadList configuration).take count)
    .empty).dispatch

theorem keyed_loadItem (registry : Registry) (services : Services) (item : LoadItem)
    {dispatch : Dispatch} (keyed : dispatch.Keyed) :
    (registry.loadItem services item dispatch).dispatch.Keyed := by
  cases item with
  | declared declaration =>
    exact loadDeclaration_keeps (P := fun dispatch => dispatch.Keyed)
      (fun _ types _ _ => keyed.register _ types) keyed
  | configured entry position =>
    exact loadEntry_keeps (P := fun dispatch => dispatch.Keyed)
      (fun binding types _ => keyed.register binding types) keyed

theorem keyed_loadedFirst (registry : Registry) (services : Services)
    (configuration : Configuration) (count : Nat) :
    (registry.loadedFirst services configuration count).Keyed :=
  Loading.each_keeps (P := fun dispatch => dispatch.Keyed)
    (fun item _ _ keyed => registry.keyed_loadItem services item keyed) Dispatch.keyed_empty

/-- A codec is bound to all of its types or to none. In tables whose readers stand at their own
keys, as they do however far a start has come, it is refused if and only if its key is held by
another implementation. The refusal names the first type, both implementations, the number of the
id and the key, and nothing has changed. Otherwise these types are written by the new binding, its
key is read by it, everything else is as it was, and doing the same again changes nothing. -/
theorem registers_all_or_nothing :
    (∀ registry services configuration count,
      (loadedFirst registry services configuration count).Keyed) ∧
    ∀ dispatch : Dispatch, dispatch.Keyed → ∀ binding type types,
      let loading := Dispatch.register binding (type :: types) dispatch
      ((∃ error, loading.result = .error error) ↔
        ∃ existing, dispatch.readers.get? binding.key = some existing ∧
          existing.implementation ≠ binding.implementation) ∧
      (∀ existing, dispatch.readers.get? binding.key = some existing →
        existing.implementation ≠ binding.implementation →
          loading = ⟨.error (.duplicateId binding.id.number type binding.implementation
            existing.implementation binding.key), dispatch, []⟩) ∧
      (loading.result = .ok () →
        loading.dispatch.isRunning = dispatch.isRunning ∧
        (∀ other, loading.dispatch.writers.get? other =
          if other ∈ type :: types then some binding else dispatch.writers.get? other) ∧
        (∀ key, loading.dispatch.readers.get? key =
          if key = binding.key then some binding else dispatch.readers.get? key) ∧
        loading.dispatch.Keyed ∧
        (Dispatch.register binding (type :: types) loading.dispatch).result = .ok () ∧
        (Dispatch.register binding (type :: types) loading.dispatch).dispatch =
          loading.dispatch) := by
  refine ⟨keyed_loadedFirst, fun dispatch keyed binding type types => ?_⟩
  intro loading
  have refused (existing : Binding) (found : dispatch.readers.get? binding.key = some existing)
      (other : existing.implementation ≠ binding.implementation) : loading = _ :=
    Dispatch.register_of_rival (keyed.rival?_eq_some_iff.2 ⟨found, other⟩) types
  refine ⟨⟨?_, ?_⟩, refused, fun done => ?_⟩
  · rintro ⟨error, failed⟩
    cases rival : dispatch.rival? binding with
    | none => cases failed.symm.trans (Dispatch.register_ok rival)
    | some existing => exact ⟨existing, keyed.rival?_eq_some_iff.1 rival⟩
  · rintro ⟨existing, found, other⟩
    exact ⟨_, congrArg Loading.result (refused existing found other)⟩
  · have named : type :: types ≠ [] := List.cons_ne_nil _ _
    have free := Dispatch.rival?_of_register named done
    have writes (other : ObjectType) : loading.dispatch.writers.get? other =
        if other ∈ type :: types then some binding else dispatch.writers.get? other :=
      Dispatch.writers_register free other
    have reads := Dispatch.readers_register free named
    have running : loading.dispatch.isRunning = dispatch.isRunning :=
      Dispatch.register_keeps (P := fun later => later.isRunning = dispatch.isRunning)
        (fun _ _ _ _ same => same) rfl
    refine ⟨running, writes, reads, keyed.register binding _, ?_⟩
    apply Dispatch.register_bound
    · exact fun other mem => (writes other).trans (if_pos mem)
    · exact (reads _).trans (if_pos rfl)

end Registry

end CodecRegistry
