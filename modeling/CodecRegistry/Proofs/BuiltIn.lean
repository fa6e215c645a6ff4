import CodecRegistry.Proofs.Start
import Mathlib.Data.List.Pairwise

/-! The built-in codecs in the tables. They are apart from each other, in their keys and in their
types, so a start binds them all; what else it loads takes no place from them unless it handles one
of their types. -/

namespace CodecRegistry

open Codec

namespace Binding

/-- The types that a codec names outright. -/
def types (binding : Binding) : List ObjectType :=
  binding.codec.descriptor.types.filterMap fun
    | .exact type => some type
    | .named _ => none

/-- The built-in codecs, bound to their ids. -/
def builtIn (services : Services) : List Binding := [
  ⟨.internal Maps.id, Maps.codec⟩,
  ⟨.internal Addresses.id, Addresses.codec⟩,
  ⟨.internal Transactions.id, Transactions.codec⟩,
  ⟨.internal Packed.id, Packed.codec services⟩,
  ⟨.internal Successes.id, Successes.codec⟩,
  ⟨.internal Failures.id, Failures.codec⟩,
  ⟨.internal Ignored.id, Ignored.codec⟩,
  ⟨.internal Commands.id, Commands.codec services⟩,
  ⟨.internal ImmortalEntries.id, ImmortalEntries.codec⟩,
  ⟨.internal MortalEntries.id, MortalEntries.codec⟩,
  ⟨.internal Keys.id, Keys.codec⟩]

/-- Neither takes a place from the other. -/
def Apart (a b : Binding) : Prop := a.key ≠ b.key ∧ ∀ type ∈ a.types, type ∉ b.types

instance : Std.Symm Apart where
  symm _ _ apart := ⟨apart.1.symm, fun type handled other => apart.2 type other handled⟩

variable (services : Services)

/-- The places of the built-in codecs do not depend on the services. -/
theorem builtIn_places :
    (builtIn services).map (fun binding => (binding.id, binding.types)) =
      (builtIn .bare).map fun binding => (binding.id, binding.types) := rfl

theorem builtIn_valid : ∀ binding ∈ builtIn services, binding.id.Valid ∧ binding.types ≠ [] := by
  have valid : ∀ place ∈ (builtIn .bare).map fun binding => (binding.id, binding.types),
      place.1.Valid ∧ place.2 ≠ [] := by decide
  rw [← builtIn_places services] at valid
  intro binding mem
  exact valid _ (List.mem_map_of_mem mem)

theorem builtIn_apart : (builtIn services).Pairwise Apart := by
  have apart : ((builtIn .bare).map fun binding => (binding.id, binding.types)).Pairwise
      fun a b => a.1.key ≠ b.1.key ∧ ∀ type ∈ a.2, type ∉ b.2 := by decide
  rw [← builtIn_places services, List.pairwise_map] at apart
  exact apart

theorem maps_mem_builtIn : ⟨.internal Codec.Maps.id, Codec.Maps.codec⟩ ∈ builtIn services := by
  simp [builtIn]

theorem packed_mem_builtIn :
    ⟨.internal Codec.Packed.id, Codec.Packed.codec services⟩ ∈ builtIn services := by
  simp [builtIn]

theorem successes_mem_builtIn :
    ⟨.internal Codec.Successes.id, Codec.Successes.codec⟩ ∈ builtIn services := by
  simp [builtIn]

/-- One type has one built-in codec. -/
theorem builtIn_unique {a b : Binding} (placeA : a ∈ builtIn services)
    (placeB : b ∈ builtIn services) {type : ObjectType} (handledA : type ∈ a.types)
    (handledB : type ∈ b.types) : a = b := by
  by_contra different
  exact ((builtIn_apart services).forall placeA placeB different).2 type handledA handledB

theorem builtIn_unique_key {a b : Binding} (placeA : a ∈ builtIn services)
    (placeB : b ∈ builtIn services) (same : a.key = b.key) : a = b := by
  by_contra different
  exact ((builtIn_apart services).forall placeA placeB different).1 same

theorem application_not_mem_types (typeName : String) :
    ∀ binding ∈ builtIn services, .application typeName ∉ binding.types := by
  have all : (builtIn services).flatMap types =
      [.unorderedMap, .sortedMap, .address, .transaction, .packed, .success, .failure, .ignored,
        .command, .immortalEntry, .mortalEntry, .key] := rfl
  intro binding place handled
  have listed := List.mem_flatMap.2 ⟨binding, place, handled⟩
  rw [all] at listed
  simp at listed

/-- A start registers the built-in codecs under these ids for these types, whatever the catalog
knows. -/
theorem loadDeclaration_builtIn (catalog : Catalog) :
    Declaration.builtIn.map (Registry.loadDeclaration catalog services) =
      (builtIn services).map fun binding => Dispatch.register binding binding.types := rfl

end Binding

namespace Declaration

theorem firstOfEachName_append {taken : List String} {front : List Declaration}
    (fresh : (front.map name).Nodup) (free : ∀ declaration ∈ front, declaration.name ∉ taken)
    (back : List Declaration) :
    firstOfEachName taken (front ++ back) =
      front ++ firstOfEachName ((front.map name).reverse ++ taken) back := by
  induction front generalizing taken with
  | nil => rfl
  | cons declaration rest ih =>
    obtain ⟨other, fresh⟩ := List.nodup_cons.1 fresh
    rw [List.cons_append, firstOfEachName, if_neg (free declaration (by simp)), ih fresh]
    · simp
    · intro later mem known
      rcases List.mem_cons.1 known with same | known
      · exact other (same ▸ List.mem_map_of_mem mem)
      · exact free later (List.mem_cons_of_mem _ mem) known

theorem builtIn_names_nodup : (builtIn.map name).Nodup := by decide +kernel

end Declaration

namespace Dispatch

variable {dispatch : Dispatch} {binding other : Binding} {types others : List ObjectType}

/-- A binding writes these types and reads the frames of its key. -/
structure Serves (dispatch : Dispatch) (binding : Binding) (types : List ObjectType) : Prop where
  writer : ∀ type ∈ types, dispatch.writers.get? type = some binding
  reader : dispatch.readers.get? binding.key = some binding

/-- A binding writes each of its types and reads the frames of its key. -/
structure Holds (dispatch : Dispatch) (binding : Binding) : Prop where
  writer : ∀ type ∈ binding.types, dispatch.writers.get? type = some binding
  reader : dispatch.readers.get? binding.key = some binding

/-- A running registry in which no built-in type was taken out or taken over. -/
structure HoldsBuiltIn (dispatch : Dispatch) (services : Services) : Prop where
  running : dispatch.isRunning = true
  bound : ∀ binding ∈ Binding.builtIn services, dispatch.Holds binding

theorem holds_iff_serves : dispatch.Holds binding ↔ dispatch.Serves binding binding.types :=
  ⟨fun holds => ⟨holds.writer, holds.reader⟩, fun serves => ⟨serves.writer, serves.reader⟩⟩

theorem Serves.bind (serves : dispatch.Serves binding types) {type : ObjectType}
    (handled : type ∉ types) (elsewhere : other.key ≠ binding.key) :
    (dispatch.bind type other).Serves binding types where
  writer := by
    intro written mem
    rw [writer_bind, if_neg (ne_of_mem_of_not_mem mem handled)]
    exact serves.writer written mem
  reader := by
    rw [reader_bind, if_neg elsewhere.symm]
    exact serves.reader

theorem Serves.started (serves : dispatch.Serves binding types) :
    { dispatch with isRunning := true }.Serves binding types :=
  ⟨serves.writer, serves.reader⟩

theorem Holds.started (holds : dispatch.Holds binding) :
    { dispatch with isRunning := true }.Holds binding :=
  ⟨holds.writer, holds.reader⟩

theorem serves_register (some_type : types ≠ [])
    (done : (register binding types dispatch).result = .ok ()) :
    (register binding types dispatch).dispatch.Serves binding types := by
  obtain ⟨type, mem⟩ := List.exists_mem_of_ne_nil _ some_type
  exact ⟨fun type mem => (register_binds done type mem).1, (register_binds done type mem).2⟩

/-- Registering a codec of another implementation takes no key, so only types matter. -/
theorem Serves.register (serves : dispatch.Serves binding types)
    (apart : ∀ type ∈ others, type ∉ types)
    (elsewhere : other.key ≠ binding.key ∨ binding.implementation ≠ other.implementation) :
    (register other others dispatch).dispatch.Serves binding types := by
  refine register_keeps (P := fun dispatch => dispatch.Serves binding types) ?_ serves
  intro type mem dispatch free serves
  refine serves.bind (apart type mem) fun same => ?_
  have alike := rival?_eq_none_iff.1 free binding (same ▸ serves.reader)
  simp only [Binding.sameAs, decide_eq_true_eq] at alike
  rcases elsewhere with elsewhere | elsewhere
  · exact elsewhere same
  · exact elsewhere alike.2

theorem Holds.register (holds : dispatch.Holds binding)
    (apart : ∀ type ∈ others, type ∉ binding.types)
    (elsewhere : other.key ≠ binding.key ∨ binding.implementation ≠ other.implementation) :
    (register other others dispatch).dispatch.Holds binding :=
  holds_iff_serves.2 ((holds_iff_serves.1 holds).register apart elsewhere)

end Dispatch

/-- A codec of another implementation that handles no built-in type. -/
structure Codec.SparesBuiltIn (codec : Codec) (catalog : Catalog) (services : Services) : Prop where
  implementation : ∀ binding ∈ Binding.builtIn services,
    binding.implementation ≠ codec.implementation
  types : ∀ types, catalog.handledTypes codec = .ok types → ∀ type ∈ types,
    ∀ binding ∈ Binding.builtIn services, type ∉ binding.types

namespace Registry

variable {registry : Registry} {services : Services} {configuration : Configuration}
  {dispatch : Dispatch}

/-- The built-in codecs come first, and they leave each other alone. -/
theorem load_builtIn
    (done : (Loading.each (loadDeclaration registry.catalog services) Declaration.builtIn
      .empty).result = .ok ()) :
    ∀ binding ∈ Binding.builtIn services,
      (Loading.each (loadDeclaration registry.catalog services) Declaration.builtIn
        .empty).dispatch.Holds binding := by
  rw [Loading.each_congr (Binding.loadDeclaration_builtIn services registry.catalog)] at done ⊢
  refine Loading.each_establishes (Q := fun binding dispatch => dispatch.Holds binding) ?_ ?_ done
  · intro binding mem dispatch done
    have named := (Binding.builtIn_valid services binding mem).2
    exact Dispatch.holds_iff_serves.2 (Dispatch.serves_register named done)
  · exact (Binding.builtIn_apart services).imp fun apart dispatch holds =>
      holds.register (fun type mem known => apart.2 type known mem) (.inl apart.1.symm)

theorem register_spares {codec : Codec} (spares : codec.SparesBuiltIn registry.catalog services)
    {id : WireId} {types : List ObjectType}
    (resolved : registry.catalog.handledTypes codec = .ok types)
    (bound : ∀ binding ∈ Binding.builtIn services, dispatch.Holds binding) :
    ∀ binding ∈ Binding.builtIn services,
      (Dispatch.register ⟨id, codec⟩ types dispatch).dispatch.Holds binding := by
  intro binding mem
  refine (bound binding mem).register (fun type handled => ?_) (.inr ?_)
  · exact spares.types types resolved type handled binding mem
  · exact spares.implementation binding mem

theorem load_spares (done : (registry.load services configuration).result = .ok ())
    (declared : ∀ declaration ∈ registry.declared,
      (declaration.make services).SparesBuiltIn registry.catalog services)
    (configured : ∀ entry ∈ configuration.entries, ∀ position codec,
      entryCodec registry.catalog services position entry = .ok codec →
        codec.SparesBuiltIn registry.catalog services) :
    ∀ binding ∈ Binding.builtIn services,
      (registry.load services configuration).dispatch.Holds binding := by
  rw [load, Declaration.firstOfEachName_append Declaration.builtIn_names_nodup (by simp),
    Loading.andThen_ok_iff, Loading.each_append, Loading.andThen_ok_iff] at done
  rw [load, Declaration.firstOfEachName_append Declaration.builtIn_names_nodup (by simp),
    Loading.each_append]
  let Bound (dispatch : Dispatch) := ∀ binding ∈ Binding.builtIn services, dispatch.Holds binding
  have bound := load_builtIn done.1.1
  refine Loading.andThen_keeps (P := Bound) ?declarations (Loading.each_keeps ?entry ?declarations)
  case declarations =>
    refine Loading.andThen_keeps (P := Bound) bound (Loading.each_keeps ?_ bound)
    intro declaration mem dispatch bound
    have known := Declaration.mem_of_mem_firstOfEachName mem
    exact loadDeclaration_keeps (P := Bound) (fun id types _ resolved =>
      register_spares (declared declaration known) resolved bound) bound
  case entry =>
    intro item listed dispatch bound
    refine loadEntry_keeps (P := Bound) (fun binding types accepted => ?_) bound
    obtain ⟨id, -, -, found, resolved⟩ := entryBinding_ok accepted
    have entry := List.fst_mem_of_mem_zipIdx listed
    exact register_spares (configured item.1 entry item.2 _ found) resolved bound

/-- A start puts the built-in codecs in their places, and they stay there if nothing that is
declared or configured claims a built-in type. -/
theorem start_holdsBuiltIn (started : (registry.start services configuration).answer = .ok ())
    (declared : ∀ declaration ∈ registry.declared,
      (declaration.make services).SparesBuiltIn registry.catalog services)
    (configured : ∀ entry ∈ configuration.entries, ∀ position codec,
      entryCodec registry.catalog services position entry = .ok codec →
        codec.SparesBuiltIn registry.catalog services) :
    (registry.start services configuration).registry.dispatch.HoldsBuiltIn services := by
  obtain ⟨-, done, after⟩ := of_start_ok started
  rw [after]
  exact ⟨rfl, fun binding mem => (load_spares done declared configured binding mem).started⟩

end Registry

end CodecRegistry
