import CodecRegistry.Proofs.Loading
import CodecRegistry.Proofs.Frame

/-! What a start does. It binds nothing but codecs that were declared or configured, each under an
id that passed the checks, and it either fills the tables to the end or leaves the registry as it
was. -/

namespace CodecRegistry

namespace Identifier

theorem checkInternal_valid {id : Option Int32} {codec : String} {accepted : UInt8}
    (h : checkInternal id codec = .ok accepted) : (WireId.internal accepted).Valid := by
  unfold checkInternal at h
  split at h
  · cases h
  · rename_i declared
    split at h
    · rename_i inRange
      cases h
      have low : 0 ≤ declared.toInt := Int32.le_iff_toInt_le.1 inRange.1
      have high : declared.toInt < 255 := Int32.lt_iff_toInt_lt.1 inRange.2
      show UInt8.ofNat declared.toInt.toNat < 255
      rw [UInt8.lt_iff_toNat_lt, UInt8.toNat_ofNat']
      show _ < 255
      omega
    · cases h

theorem checkForeign_valid {id : Int64} {codec : String} {accepted : UInt32}
    (h : checkForeign id codec = .ok accepted) : (WireId.foreign accepted).Valid := by
  unfold checkForeign at h
  split at h
  · cases h
  · split at h
    · rename_i inRange
      cases h
      have high : id.toInt.toNat ≤ 2 ^ 31 - 1 := by
        have : (FrameKey.largestForeignId.toNat : Int) = 2 ^ 31 - 1 := rfl
        omega
      show UInt32.ofNat id.toInt.toNat ≤ FrameKey.largestForeignId
      rw [UInt32.le_iff_toNat_le, UInt32.toNat_ofNat']
      show _ ≤ 2 ^ 31 - 1
      omega
    · cases h

theorem resolveForeign_valid {configured : Option Int64} {declared : Option Int32} {codec : String}
    {accepted : UInt32} (h : resolveForeign configured declared codec = .ok accepted) :
    (WireId.foreign accepted).Valid := by
  unfold resolveForeign at h
  split at h
  · cases h
  · exact checkForeign_valid h

end Identifier

namespace Declaration

theorem mem_of_mem_firstOfEachName {taken : List String} {declarations : List Declaration}
    {declaration : Declaration} (h : declaration ∈ firstOfEachName taken declarations) :
    declaration ∈ declarations := by
  induction declarations generalizing taken with
  | nil => exact h
  | cons head rest ih =>
    unfold firstOfEachName at h
    split at h
    · exact List.mem_cons_of_mem _ (ih h)
    · rcases List.mem_cons.1 h with rfl | later
      · exact List.mem_cons_self
      · exact List.mem_cons_of_mem _ (ih later)

end Declaration

namespace Registry

variable {registry : Registry} {services : Services} {configuration : Configuration}
  {P : Dispatch → Prop} {dispatch : Dispatch}

/-- What the configuration asks a start to bind to a type. -/
def Configures (registry : Registry) (services : Services) (configuration : Configuration)
    (binding : Binding) (type : ObjectType) : Prop :=
  ∃ item ∈ configuration.entries.zipIdx, ∃ types,
    entryBinding registry.catalog services item.2 item.1 = .ok (binding, types) ∧ type ∈ types

/-- What a start may bind to a type: a codec that was declared or configured, under the id that was
accepted for it. -/
inductive Loads (registry : Registry) (services : Services) (configuration : Configuration) :
    Binding → ObjectType → Prop
  | declared {declaration : Declaration} {id : UInt8} {types : List ObjectType} {type : ObjectType}
      (known : declaration ∈ Declaration.builtIn ++ registry.declared)
      (accepted : Identifier.checkInternal (declaration.make services).descriptor.id
        (declaration.make services).implementation = .ok id)
      (resolved : registry.catalog.handledTypes (declaration.make services) = .ok types)
      (handled : type ∈ types) :
      Loads registry services configuration ⟨.internal id, declaration.make services⟩ type
  | configured {binding : Binding} {type : ObjectType}
      (configures : registry.Configures services configuration binding type) :
      Loads registry services configuration binding type

theorem entryBinding_ok {catalog : Catalog} {position : Nat} {entry : ConfigurationEntry}
    {binding : Binding} {types : List ObjectType} 
    (h : entryBinding catalog services position entry = .ok (binding, types)) :
    ∃ id, binding.id = .foreign id ∧
      Identifier.resolveForeign entry.id binding.codec.descriptor.id binding.implementation =
        .ok id ∧
      entryCodec catalog services position entry = .ok binding.codec ∧
      catalog.handledTypes binding.codec = .ok types := by
  simp only [entryBinding, Bind.bind, Except.bind] at h
  split at h
  · cases h
  · rename_i codec found
    split at h
    · cases h
    · rename_i id resolved
      split at h
      · cases h
      · rename_i handled known
        cases h
        exact ⟨id, rfl, resolved, found, known⟩

theorem Loads.valid {binding : Binding} {type : ObjectType}
    (loads : registry.Loads services configuration binding type) : binding.id.Valid := by
  cases loads with
  | declared known accepted resolved handled => exact Identifier.checkInternal_valid accepted
  | configured configures =>
    obtain ⟨item, -, types, accepted, -⟩ := configures
    obtain ⟨id, foreign, resolved, -⟩ := entryBinding_ok accepted
    rw [foreign]
    exact Identifier.resolveForeign_valid resolved

/-- Foreign ids come from the configuration alone. -/
theorem Loads.configures {binding : Binding} {type : ObjectType}
    (loads : registry.Loads services configuration binding type)
    (foreign : binding.id.isForeign = true) :
    registry.Configures services configuration binding type := by
  cases loads with
  | declared known accepted resolved handled => cases foreign
  | configured configures => exact configures

/-- How a codec reads depends on where it came from: it is built in, declared or configured. -/
theorem Loads.read_of {P : ReadProgram Object → Prop} {binding : Binding} {type : ObjectType}
    (loads : registry.Loads services configuration binding type)
    (builtIn : ∀ declaration ∈ Declaration.builtIn, P (declaration.make services).read)
    (declared : ∀ declaration ∈ registry.declared, P (declaration.make services).read)
    (configured : ∀ binding type, registry.Configures services configuration binding type →
      P binding.codec.read) : P binding.codec.read := by
  cases loads with
  | declared known accepted resolved handled =>
    rcases List.mem_append.1 known with known | known
    · exact builtIn _ known
    · exact declared _ known
  | configured configures => exact configured binding type configures

theorem loadDeclaration_keeps {declaration : Declaration}
    (keeps : ∀ id types, Identifier.checkInternal (declaration.make services).descriptor.id
        (declaration.make services).implementation = .ok id →
      registry.catalog.handledTypes (declaration.make services) = .ok types →
      P (Dispatch.register ⟨.internal id, declaration.make services⟩ types dispatch).dispatch)
    (start : P dispatch) :
    P (loadDeclaration registry.catalog services declaration dispatch).dispatch := by
  simp only [loadDeclaration]
  split
  · exact start
  · rename_i id accepted
    split
    · rename_i types resolved
      exact keeps id types accepted resolved
    · split <;> exact start
    · exact start

theorem loadEntry_keeps {item : ConfigurationEntry × Nat}
    (keeps : ∀ binding types,
      entryBinding registry.catalog services item.2 item.1 = .ok (binding, types) →
      P (Dispatch.register binding types dispatch).dispatch)
    (start : P dispatch) : P (loadEntry registry.catalog services item dispatch).dispatch := by
  simp only [loadEntry]
  split
  · exact start
  · rename_i binding types accepted
    exact keeps binding types accepted

/-- Whatever binding one loaded type keeps, a load keeps from the empty tables on. -/
theorem load_keeps (start : P .empty)
    (keeps : ∀ binding type, registry.Loads services configuration binding type →
      ∀ dispatch : Dispatch, dispatch.rival? binding = none → P dispatch →
        P (dispatch.bind type binding)) :
    P (registry.load services configuration).dispatch := by
  have step (binding : Binding) (types : List ObjectType)
      (loads : ∀ type ∈ types, registry.Loads services configuration binding type)
      (dispatch : Dispatch) (holds : P dispatch) :
      P (Dispatch.register binding types dispatch).dispatch :=
    Dispatch.register_keeps (fun type handled => keeps binding type (loads type handled)) holds
  have declarations : P (Loading.each (loadDeclaration registry.catalog services)
      (Declaration.firstOfEachName [] (Declaration.builtIn ++ registry.declared))
        .empty).dispatch := by
    refine Loading.each_keeps (fun declaration mem dispatch holds => ?_) start
    refine loadDeclaration_keeps (fun id types accepted resolved => ?_) holds
    have known := Declaration.mem_of_mem_firstOfEachName mem
    exact step _ types (fun type => .declared known accepted resolved) dispatch holds
  rw [load]
  refine Loading.andThen_keeps declarations ?_
  refine Loading.each_keeps (fun item listed dispatch holds => ?_) declarations
  refine loadEntry_keeps (fun binding types accepted => ?_) holds
  have loads (type : ObjectType) (handled : type ∈ types) :
      registry.Loads services configuration binding type :=
    .configured ⟨item, listed, types, accepted, handled⟩
  exact step binding types loads dispatch holds

/-- A start that fails changes nothing; one that succeeds had a stopped registry and loaded
everything. -/
theorem start_cases (registry : Registry) (services : Services) (configuration : Configuration) :
    (∃ error, (registry.start services configuration).answer = .error error ∧
      (registry.start services configuration).registry = registry) ∨
    (registry.isRunning = false ∧ (registry.load services configuration).result = .ok () ∧
      (registry.start services configuration).answer = .ok () ∧
      (registry.start services configuration).registry =
        { registry with dispatch :=
          { (registry.load services configuration).dispatch with isRunning := true } }) := by
  unfold start
  split
  · exact .inl ⟨_, rfl, rfl⟩
  · rename_i stopped
    dsimp only
    split
    · rename_i error failed
      exact .inl ⟨_, rfl, rfl⟩
    · rename_i done
      exact .inr ⟨Bool.eq_false_iff.2 stopped, done, rfl, rfl⟩

theorem of_start_ok (started : (registry.start services configuration).answer = .ok ()) :
    registry.isRunning = false ∧ (registry.load services configuration).result = .ok () ∧
    (registry.start services configuration).registry =
      { registry with dispatch :=
        { (registry.load services configuration).dispatch with isRunning := true } } := by
  rcases start_cases registry services configuration with
    ⟨error, failed, -⟩ | ⟨stopped, done, -, after⟩
  · cases failed.symm.trans started
  · exact ⟨stopped, done, after⟩

end Registry

end CodecRegistry
