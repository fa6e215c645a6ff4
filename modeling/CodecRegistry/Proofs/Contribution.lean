import CodecRegistry.Proofs.BuiltIn

/-! What a start has to load, and what each item of it contributes, said without the order in which
the loader checks things. An item contributes a codec under an id, for the types that it handles; an
optional declaration whose types are not all known contributes nothing. -/

namespace CodecRegistry

namespace Identifier

/-- An internal id is accepted when it is the number of a byte below the sentinel. -/
theorem checkInternal_ok_iff {id : Option Int32} {codec : String} {accepted : UInt8} :
    checkInternal id codec = .ok accepted ↔
      id.map Int32.toInt = some (accepted.toNat : Int) ∧ accepted.toNat ≤ 254 := by
  cases id with
  | none => simp [checkInternal]
  | some number =>
    simp only [checkInternal, Option.map_some, Option.some.injEq]
    split
    · rename_i inRange
      have low : 0 ≤ number.toInt := Int32.le_iff_toInt_le.1 inRange.1
      have high : number.toInt < 255 := Int32.lt_iff_toInt_lt.1 inRange.2
      rw [Except.ok.injEq, ← UInt8.toNat_inj, UInt8.toNat_ofNat']
      omega
    · rename_i outOfRange
      rw [Int32.le_iff_toInt_le, Int32.lt_iff_toInt_lt] at outOfRange
      have zero : (0 : Int32).toInt = 0 := rfl
      have sentinel : (255 : Int32).toInt = 255 := rfl
      simp only [reduceCtorEq, false_iff]
      omega

theorem checkForeign_ok_iff {id : Int64} {codec : String} {accepted : UInt32} :
    checkForeign id codec = .ok accepted ↔
      id.toInt = accepted.toNat ∧ accepted.toNat ≤ 0x7fffffff := by
  have largest : FrameKey.largestForeignId.toNat = 0x7fffffff := rfl
  have zero : (0 : Int64).toInt = 0 := rfl
  simp only [checkForeign, Int64.lt_iff_toInt_lt, largest, zero]
  split
  · simp only [reduceCtorEq, false_iff]
    omega
  · split
    · rw [Except.ok.injEq, ← UInt32.toNat_inj, UInt32.toNat_ofNat']
      omega
    · simp only [reduceCtorEq, false_iff]
      omega

/-- The configured number counts before the declared one. -/
theorem resolveForeign_ok_iff {configured : Option Int64} {declared : Option Int32}
    {codec : String} {accepted : UInt32} :
    resolveForeign configured declared codec = .ok accepted ↔
      (configured.map Int64.toInt <|> declared.map Int32.toInt) = some (accepted.toNat : Int) ∧
        accepted.toNat ≤ 0x7fffffff := by
  cases configured with
  | some id => simp [resolveForeign, checkForeign_ok_iff]
  | none =>
    cases declared with
    | some id => simp [resolveForeign, checkForeign_ok_iff]
    | none => simp [resolveForeign]

end Identifier

namespace Declaration

/-- A name counts as taken when it was from the start, or when an earlier declaration has it. -/
theorem firstOfEachName_eq_filter (taken : List String) (declarations : List Declaration) :
    firstOfEachName taken declarations =
      (declarations.zipIdx.filter fun item =>
        item.1.name ∉ taken ++ (declarations.take item.2).map name).map Prod.fst := by
  induction declarations generalizing taken with
  | nil => rfl
  | cons declaration rest ih =>
    have shift : ((rest.zipIdx 1).filter fun item =>
          item.1.name ∉ taken ++ ((declaration :: rest).take item.2).map name).map Prod.fst =
        (rest.zipIdx.filter fun item =>
          item.1.name ∉ taken ++ declaration.name :: (rest.take item.2).map name).map Prod.fst := by
      rw [List.zipIdx_succ, List.filter_map, List.map_map]
      rfl
    rw [firstOfEachName, List.zipIdx_cons, List.filter_cons]
    by_cases known : declaration.name ∈ taken
    · rw [if_pos known, if_neg (by simp [known]), shift, ih]
      congr 2
      funext item
      have same : item.1.name = declaration.name → item.1.name ∈ taken := fun same => same ▸ known
      simp only [List.mem_append, List.mem_cons, decide_eq_decide]
      tauto
    · rw [if_neg known, if_pos (by simp [known]), List.map_cons, shift, ih]
      congr 3
      funext item
      simp only [List.mem_append, List.mem_cons, List.cons_append, decide_eq_decide]
      tauto

end Declaration

namespace Catalog

variable {catalog : Catalog} {codec : Codec} {types : List ObjectType}

/-- The type that a handled type stands for, if it is known. -/
def lookUp (catalog : Catalog) : HandledType → Option ObjectType
  | .exact type => some type
  | .named name => catalog.types.get? name

/-- A codec names at least one type, and the types that it names are all known. -/
structure Handles (catalog : Catalog) (codec : Codec) (types : List ObjectType) : Prop where
  named : codec.descriptor.types ≠ []
  known : codec.descriptor.types.map catalog.lookUp = types.map some

/-- A codec names a type that is not known. -/
def Misses (catalog : Catalog) (codec : Codec) : Prop :=
  none ∈ codec.descriptor.types.map catalog.lookUp

theorem resolve_cases (catalog : Catalog) (codec : String) (handled : HandledType) :
    (∃ type, catalog.resolve codec handled = .ok type ∧ catalog.lookUp handled = some type) ∨
    ∃ name, catalog.resolve codec handled = .error (.unresolvedType codec name) ∧
      catalog.lookUp handled = none := by
  cases handled with
  | exact type => exact .inl ⟨type, rfl, rfl⟩
  | named name =>
    simp only [resolve, type?, lookUp]
    cases catalog.types.get? name with
    | some type => exact .inl ⟨type, rfl, rfl⟩
    | none => exact .inr ⟨name, rfl, rfl⟩

theorem resolveEach_cases (catalog : Catalog) (codec : String) (handled : List HandledType) :
    (∃ types, catalog.resolveEach codec handled = .ok types ∧
      handled.map catalog.lookUp = types.map some) ∨
    ∃ name, catalog.resolveEach codec handled = .error (.unresolvedType codec name) ∧
      none ∈ handled.map catalog.lookUp := by
  induction handled with
  | nil => exact .inl ⟨[], rfl, rfl⟩
  | cons head rest ih =>
    simp only [resolveEach, Bind.bind, Except.bind, List.map_cons]
    rcases catalog.resolve_cases codec head with ⟨type, resolved, known⟩ | ⟨name, failed, unknown⟩
    · rw [resolved, known]
      rcases ih with ⟨types, resolved, known⟩ | ⟨name, failed, unknown⟩
      · rw [resolved, known]
        exact .inl ⟨type :: types, rfl, rfl⟩
      · rw [failed]
        exact .inr ⟨name, rfl, List.mem_cons_of_mem _ unknown⟩
    · rw [failed, unknown]
      exact .inr ⟨name, rfl, List.mem_cons_self⟩

theorem handledTypes_cases (catalog : Catalog) (codec : Codec) :
    (∃ types, catalog.handledTypes codec = .ok types ∧ catalog.Handles codec types) ∨
    (∃ name, catalog.handledTypes codec = .error (.unresolvedType codec.implementation name) ∧
      codec.descriptor.types ≠ [] ∧ catalog.Misses codec) ∨
    catalog.handledTypes codec = .error (.noHandledTypes codec.implementation) ∧
      codec.descriptor.types = [] := by
  by_cases named : codec.descriptor.types = []
  · exact .inr (.inr ⟨if_pos named, named⟩)
  · rw [handledTypes, if_neg named]
    rcases catalog.resolveEach_cases codec.implementation codec.descriptor.types with
      ⟨types, resolved, known⟩ | ⟨name, failed, unknown⟩
    · exact .inl ⟨types, resolved, named, known⟩
    · exact .inr (.inl ⟨name, failed, named, unknown⟩)

theorem Handles.not_misses (handles : catalog.Handles codec types) : ¬ catalog.Misses codec := by
  intro misses
  rw [Misses, handles.known] at misses
  simp at misses

theorem Handles.handledTypes (handles : catalog.Handles codec types) :
    catalog.handledTypes codec = .ok types := by
  rcases catalog.handledTypes_cases codec with
    ⟨others, resolved, others_known⟩ | ⟨name, -, -, misses⟩ | ⟨-, unnamed⟩
  · have same : others.map some = types.map some := others_known.known.symm.trans handles.known
    rw [resolved, (List.map_inj_right fun _ _ => Option.some.inj).1 same]
  · exact absurd misses handles.not_misses
  · exact absurd unnamed handles.named

theorem Misses.handledTypes (misses : catalog.Misses codec) :
    ∃ name, catalog.handledTypes codec =
      .error (.unresolvedType codec.implementation name) := by
  rcases catalog.handledTypes_cases codec with
    ⟨types, -, handles⟩ | ⟨name, failed, -⟩ | ⟨-, unnamed⟩
  · exact absurd misses handles.not_misses
  · exact ⟨name, failed⟩
  · rw [Misses, unnamed] at misses
    cases misses

theorem handles_of_handledTypes (resolved : catalog.handledTypes codec = .ok types) :
    catalog.Handles codec types := by
  rcases catalog.handledTypes_cases codec with
    ⟨others, known, handles⟩ | ⟨name, failed, -⟩ | ⟨failed, -⟩
  · obtain rfl : others = types := Except.ok.inj (known.symm.trans resolved)
    exact handles
  · cases failed.symm.trans resolved
  · cases failed.symm.trans resolved

theorem Handles.types_ne_nil (handles : catalog.Handles codec types) : types ≠ [] := by
  rintro rfl
  exact handles.named (List.map_eq_nil_iff.1 handles.known)

end Catalog

/-- What a start loads: the codec of a declaration, or the one of an entry at its position in the
configuration. -/
inductive LoadItem where
  | declared (declaration : Declaration)
  | configured (entry : ConfigurationEntry) (position : Nat)

/-- A codec under an id, and the types that it handles. -/
structure Contribution where
  binding : Binding
  types : List ObjectType

namespace Registry

variable {registry : Registry} {services : Services} {item : LoadItem}
  {contribution : Contribution} {dispatch : Dispatch}

/-- The declarations of a registry whose names no earlier one has, built-in ones included. -/
def added (registry : Registry) : List Declaration :=
  (registry.declared.zipIdx.filter fun item =>
    item.1.name ∉ (Declaration.builtIn ++ registry.declared.take item.2).map Declaration.name).map
      Prod.fst

/-- Everything that a start loads, in order. -/
def loadList (registry : Registry) (configuration : Configuration) : List LoadItem :=
  (Declaration.builtIn ++ registry.added).map .declared ++
    configuration.entries.zipIdx.map fun item => .configured item.1 item.2

/-- What an item contributes: a codec under an id of its namespace, whose types are all known. -/
inductive Contributes (registry : Registry) (services : Services) : LoadItem → Contribution → Prop
  | declared {declaration : Declaration} {id : UInt8} {types : List ObjectType}
      (number : (declaration.make services).descriptor.id.map Int32.toInt = some (id.toNat : Int))
      (inRange : id.toNat ≤ 254)
      (handles : registry.catalog.Handles (declaration.make services) types) :
      Contributes registry services (.declared declaration)
        ⟨⟨.internal id, declaration.make services⟩, types⟩
  | configured {entry : ConfigurationEntry} {position : Nat} {codec : Codec} {id : UInt32}
      {types : List ObjectType}
      (given : entry.codec = some codec ∨ entry.codec = none ∧ ∃ className make,
        entry.className = some className ∧ registry.catalog.classes.get? className = some make ∧
          codec = make services)
      (number : (entry.id.map Int64.toInt <|> codec.descriptor.id.map Int32.toInt) =
        some (id.toNat : Int))
      (inRange : id.toNat ≤ 0x7fffffff) (handles : registry.catalog.Handles codec types) :
      Contributes registry services (.configured entry position) ⟨⟨.foreign id, codec⟩, types⟩

/-- A declaration that may be left out, and is, because a type that it names is not known. Its id
must be in order all the same. -/
inductive LeavesOut (registry : Registry) (services : Services) : LoadItem → Prop
  | optional {declaration : Declaration} {id : UInt8}
      (number : (declaration.make services).descriptor.id.map Int32.toInt = some (id.toNat : Int))
      (inRange : id.toNat ≤ 254) (isOptional : declaration.isOptional = true)
      (misses : registry.catalog.Misses (declaration.make services)) :
      LeavesOut registry services (.declared declaration)

/-- What a list of items contributes, if each of them is in order. -/
inductive Yields (registry : Registry) (services : Services) :
    List LoadItem → List Contribution → Prop
  | nil : Yields registry services [] []
  | contributes {item : LoadItem} {contribution : Contribution} {rest : List LoadItem}
      {later : List Contribution} (first : registry.Contributes services item contribution)
      (others : Yields registry services rest later) :
      Yields registry services (item :: rest) (contribution :: later)
  | leavesOut {item : LoadItem} {rest : List LoadItem} {later : List Contribution}
      (first : registry.LeavesOut services item) (others : Yields registry services rest later) :
      Yields registry services (item :: rest) later

theorem entryCodec_ok_iff {catalog : Catalog} {entry : ConfigurationEntry} {position : Nat}
    {codec : Codec} :
    entryCodec catalog services position entry = .ok codec ↔
      entry.codec = some codec ∨ entry.codec = none ∧ ∃ className make,
        entry.className = some className ∧ catalog.classes.get? className = some make ∧
          codec = make services := by
  obtain ⟨given, named, id⟩ := entry
  cases given with
  | some other => simp [entryCodec]
  | none =>
    cases named with
    | none => simp [entryCodec]
    | some className =>
      simp only [entryCodec, Catalog.class?]
      cases known : catalog.classes.get? className with
      | some make => simp [known, eq_comm (a := codec)]
      | none => simp [known]

/-- The step of a start for one item. -/
def loadItem (registry : Registry) (services : Services) : LoadItem → Dispatch → Loading
  | .declared declaration => loadDeclaration registry.catalog services declaration
  | .configured entry position => loadEntry registry.catalog services (entry, position)

/-- A start loads the items of its list, in order, into empty tables. -/
theorem load_eq_each (registry : Registry) (services : Services) (configuration : Configuration) :
    registry.load services configuration =
      Loading.each (registry.loadItem services) (registry.loadList configuration) .empty := by
  have declarations : Declaration.firstOfEachName [] (Declaration.builtIn ++ registry.declared) =
      Declaration.builtIn ++ registry.added := by
    rw [Declaration.firstOfEachName_append Declaration.builtIn_names_nodup (by simp),
      Declaration.firstOfEachName_eq_filter, added]
    congr 3
    funext item
    simp
  have front (declarations : List Declaration) :
      Loading.each (loadDeclaration registry.catalog services) declarations =
        Loading.each (registry.loadItem services) (declarations.map .declared) :=
    Loading.each_congr (by rw [List.map_map]; rfl)
  have back (entries : List (ConfigurationEntry × Nat)) :
      Loading.each (loadEntry registry.catalog services) entries =
        Loading.each (registry.loadItem services)
          (entries.map fun item => .configured item.1 item.2) :=
    Loading.each_congr (by rw [List.map_map]; rfl)
  rw [load, declarations, front, back, loadList, Loading.each_append]

theorem Contributes.valid (contributes : registry.Contributes services item contribution) :
    contribution.binding.id.Valid := by
  cases contributes with
  | declared number inRange handles => exact UInt8.lt_iff_toNat_lt.2 (Nat.lt_succ_of_le inRange)
  | configured given number inRange handles => exact UInt32.le_iff_toNat_le.2 inRange

theorem Contributes.types_ne_nil (contributes : registry.Contributes services item contribution) :
    contribution.types ≠ [] := by
  cases contributes with
  | declared number inRange handles => exact handles.types_ne_nil
  | configured given number inRange handles => exact handles.types_ne_nil

theorem Contributes.loadItem (contributes : registry.Contributes services item contribution)
    (dispatch : Dispatch) : registry.loadItem services item dispatch =
      Dispatch.register contribution.binding contribution.types dispatch := by
  cases contributes with
  | declared number inRange handles =>
    simp only [Registry.loadItem, loadDeclaration,
      Identifier.checkInternal_ok_iff.2 ⟨number, inRange⟩, handles.handledTypes]
  | @configured entry position codec id types given number inRange handles =>
    simp only [Registry.loadItem, loadEntry, entryBinding, entryCodec_ok_iff.2 given, Bind.bind,
      Except.bind, Identifier.resolveForeign_ok_iff.2 ⟨number, inRange⟩, handles.handledTypes]
    rfl

theorem LeavesOut.loadItem (leavesOut : registry.LeavesOut services item) (dispatch : Dispatch) :
    (registry.loadItem services item dispatch).result = .ok () ∧
      (registry.loadItem services item dispatch).dispatch = dispatch := by
  obtain ⟨number, inRange, isOptional, misses⟩ := leavesOut
  obtain ⟨name, failed⟩ := misses.handledTypes
  simp only [Registry.loadItem, loadDeclaration,
    Identifier.checkInternal_ok_iff.2 ⟨number, inRange⟩, failed, isOptional, if_true, and_self]

/-- An item whose step succeeds is in order. -/
theorem contributes_or_leavesOut
    (done : (registry.loadItem services item dispatch).result = .ok ()) :
    (∃ contribution, registry.Contributes services item contribution) ∨
      registry.LeavesOut services item := by
  cases item with
  | declared declaration =>
    simp only [loadItem, loadDeclaration] at done
    split at done
    · cases done
    · rename_i id accepted
      obtain ⟨number, inRange⟩ := Identifier.checkInternal_ok_iff.1 accepted
      rcases registry.catalog.handledTypes_cases (declaration.make services) with
        ⟨types, -, handles⟩ | ⟨name, failed, -, misses⟩ | ⟨failed, -⟩
      · exact .inl ⟨_, .declared number inRange handles⟩
      · simp only [failed] at done
        split at done
        · exact .inr (.optional number inRange ‹_› misses)
        · cases done
      · simp only [failed] at done
        cases done
  | configured entry position =>
    simp only [loadItem, loadEntry] at done
    split at done
    · cases done
    · rename_i binding types accepted
      obtain ⟨id, foreign, resolved, found, known⟩ := entryBinding_ok accepted
      obtain ⟨number, inRange⟩ := Identifier.resolveForeign_ok_iff.1 resolved
      exact .inl ⟨_, .configured (entryCodec_ok_iff.1 found) number inRange
        (Catalog.handles_of_handledTypes known)⟩

end Registry

end CodecRegistry
