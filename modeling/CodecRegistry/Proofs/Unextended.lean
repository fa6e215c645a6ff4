import CodecRegistry.Proofs.BuiltIn
import CodecRegistry.Proofs.Loaded

/-! A registry to which nothing was added: no codec was declared and none configured. While it runs,
whatever reads a frame is a built-in codec, also when types were taken out. -/

namespace CodecRegistry

namespace Binding

/-- The ids that the built-in codecs declare are the ones that they are bound to. -/
theorem builtIn_accepted (services : Services) :
    Declaration.builtIn.map (fun declaration =>
        (Identifier.checkInternal (declaration.make services).descriptor.id
          (declaration.make services).implementation).map fun id =>
            (⟨.internal id, declaration.make services⟩ : Binding)) =
      (builtIn services).map .ok := rfl

theorem mem_builtIn_of_accepted {services : Services} {declaration : Declaration}
    (known : declaration ∈ Declaration.builtIn) {id : UInt8}
    (accepted : Identifier.checkInternal (declaration.make services).descriptor.id
      (declaration.make services).implementation = .ok id) :
    ⟨.internal id, declaration.make services⟩ ∈ builtIn services := by
  have listed := List.mem_map_of_mem (f := fun declaration =>
    (Identifier.checkInternal (declaration.make services).descriptor.id
      (declaration.make services).implementation).map fun id =>
        (⟨.internal id, declaration.make services⟩ : Binding)) known
  rw [builtIn_accepted, accepted] at listed
  obtain ⟨binding, mem, same⟩ := List.mem_map.1 listed
  obtain rfl : binding = ⟨.internal id, declaration.make services⟩ := Except.ok.inj same
  exact mem

/-- A codec that was loaded for a type, whatever the catalog was at the time. -/
def LoadedFor (binding : Binding) (type : ObjectType) : Prop :=
  ∃ (catalog : Catalog) (types : List ObjectType),
    catalog.handledTypes binding.codec = .ok types ∧ type ∈ types

theorem handledTypes_builtIn (services : Services) (catalog : Catalog) :
    (builtIn services).map (fun binding => catalog.handledTypes binding.codec) =
      (builtIn services).map fun binding => .ok binding.types := rfl

/-- No catalog gives a built-in codec other types than it names. -/
theorem LoadedFor.mem_types {services : Services} {binding : Binding} {type : ObjectType}
    (loaded : binding.LoadedFor type) (place : binding ∈ builtIn services) :
    type ∈ binding.types := by
  obtain ⟨catalog, types, resolved, handled⟩ := loaded
  have named := List.map_inj_left.1 (handledTypes_builtIn services catalog) binding place
  rw [resolved] at named
  exact Except.ok.inj named ▸ handled

end Binding

/-- A running registry on which only built-in codecs read. -/
structure Dispatch.OnlyBuiltIn (dispatch : Dispatch) (services : Services) : Prop where
  running : dispatch.isRunning = true
  reader : ∀ {key reader}, dispatch.readers.get? key = some reader →
    reader ∈ Binding.builtIn services

namespace Registry

variable {registry : Registry} {services : Services} {configuration : Configuration}

theorem Loads.mem_builtIn (undeclared : registry.declared = [])
    (unconfigured : configuration.entries = []) {binding : Binding} {type : ObjectType}
    (loads : registry.Loads services configuration binding type) :
    binding ∈ Binding.builtIn services := by
  cases loads with
  | declared known accepted resolved handled =>
    rw [undeclared, List.append_nil] at known
    exact Binding.mem_builtIn_of_accepted known accepted
  | configured configures =>
    obtain ⟨item, listed, -⟩ := configures
    rw [unconfigured] at listed
    cases listed

theorem Loads.loadedFor {binding : Binding} {type : ObjectType}
    (loads : registry.Loads services configuration binding type) : binding.LoadedFor type := by
  cases loads with
  | declared known accepted resolved handled => exact ⟨_, _, resolved, handled⟩
  | configured configures =>
    obtain ⟨item, -, types, accepted, handled⟩ := configures
    obtain ⟨id, -, -, -, resolved⟩ := entryBinding_ok accepted
    exact ⟨_, types, resolved, handled⟩

theorem perform_loadedFor (holds : registry.dispatch.LoadedFrom Binding.LoadedFor)
    (operation : Operation) :
    (registry.perform operation).dispatch.LoadedFrom Binding.LoadedFor := by
  cases operation with
  | declare declaration =>
    rw [perform, (registry.declare_keeps declaration).1]
    exact holds
  | registerType name type => exact holds
  | registerClass className make => exact holds
  | start services configuration =>
    rcases start_cases registry services configuration with ⟨error, -, same⟩ | ⟨-, -, -, after⟩
    · rw [perform, same]
      exact holds
    · rw [perform, after]
      refine Dispatch.LoadedFrom.started ?_
      apply load_keeps (P := fun dispatch => dispatch.LoadedFrom Binding.LoadedFor)
        Dispatch.loadedFrom_empty
      intro binding type loads dispatch free loaded
      exact loaded.bind loads.loadedFor
  | stop => exact Dispatch.loadedFrom_empty
  | unregister type => exact holds.unregister type

/-- At any time, who writes a type was loaded for it. -/
theorem loadedFor_after (operations : List Operation) :
    (after operations).dispatch.LoadedFrom Binding.LoadedFor :=
  after_keeps (P := fun registry => registry.dispatch.LoadedFrom Binding.LoadedFor)
    Dispatch.loadedFrom_empty (fun _ operation holds => perform_loadedFor holds operation)
    operations

theorem onlyBuiltIn_of_running
    (started : (registry.start services configuration).answer = .ok ()) (more : List Operation)
    (running : ∀ front, front <+: more →
      (front.foldl perform (registry.start services configuration).registry).isRunning = true)
    (undeclared : registry.declared = []) (unconfigured : configuration.entries = []) :
    (more.foldl perform (registry.start services configuration).registry).dispatch.OnlyBuiltIn
      services where
  running := running more (List.prefix_refl more)
  reader := by
    intro key reader found
    obtain ⟨type, loads⟩ := (loadedFrom_of_running started more running).2.reader found
    exact loads.mem_builtIn undeclared unconfigured

/-- The registry as a new node starts it. -/
theorem onlyBuiltIn_standard :
    (empty.start .bare .standard).registry.dispatch.OnlyBuiltIn .bare := by
  have started : (empty.start .bare .standard).answer = .ok () ∧
      (empty.start .bare .standard).registry.isRunning = true := by decide +kernel
  exact onlyBuiltIn_of_running started.1 [] (running_nil_iff.2 started.2) rfl rfl

theorem holdsBuiltIn_standard :
    (empty.start .bare .standard).registry.dispatch.HoldsBuiltIn .bare :=
  start_holdsBuiltIn (by decide +kernel) (fun _ mem => absurd mem List.not_mem_nil)
    fun _ mem => absurd mem List.not_mem_nil

end Registry

end CodecRegistry
