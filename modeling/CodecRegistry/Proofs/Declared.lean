import CodecRegistry.Proofs.Entries
import CodecRegistry.Proofs.History

/-! What becomes of a declaration that a registry accepted. The declarations of a registry have
different names, and they stay until it is stopped. So the next start loads each of them, unless a
built-in codec has its name: that one comes first, and the declaration counts for nothing, at that
start and at any later time. -/

namespace CodecRegistry

namespace Declaration

/-- A built-in codec has the name of the declaration. -/
def Shadowed (declaration : Declaration) : Prop := declaration.name ∈ builtIn.map name

instance : DecidablePred Shadowed := fun declaration =>
  inferInstanceAs (Decidable (declaration.name ∈ builtIn.map name))

/-- Of declarations with different names only those are dropped whose names were taken before. -/
theorem firstOfEachName_of_nodup {declarations : List Declaration}
    (distinct : (declarations.map name).Nodup) (taken : List String) :
    firstOfEachName taken declarations =
      declarations.filter fun declaration => declaration.name ∉ taken := by
  induction declarations generalizing taken with
  | nil => rfl
  | cons declaration rest ih =>
    obtain ⟨other, distinct⟩ := List.nodup_cons.1 distinct
    rw [firstOfEachName, List.filter_cons]
    by_cases known : declaration.name ∈ taken
    · rw [if_pos known, if_neg (by simpa using known), ih distinct]
    · rw [if_neg known, if_pos (by simpa using known), ih distinct]
      -- The name that is taken now is none of the names to come.
      congr 1
      refine List.filter_congr fun later mem => ?_
      have fresh : later.name ≠ declaration.name :=
        fun same => other (same ▸ List.mem_map_of_mem mem)
      simp [fresh]

end Declaration

namespace Registry

open Declaration

variable {registry other : Registry} {services : Services} {configuration : Configuration}
  {declaration : Declaration} {items : List LoadItem} {contributions : List Contribution}

/-- The declarations that count. -/
def counted (registry : Registry) : List Declaration :=
  registry.declared.filter fun declaration => ¬ declaration.Shadowed

/-- They are what a start loads besides the built-in codecs. -/
theorem Sound.added_eq (sound : registry.Sound) : registry.added = registry.counted := by
  have filtered := firstOfEachName_eq_filter (builtIn.map name) registry.declared
  rw [firstOfEachName_of_nodup sound.distinct] at filtered
  simp only [added, List.map_append]
  exact filtered.symm

/-! ## A name of its own -/

/-- Declarations are only ever added, up to the next stop. -/
theorem declared_perform {operation : Operation} (kept : operation ≠ .stop) :
    registry.declared <+: (registry.perform operation).declared := by
  cases operation with
  | declare declaration =>
    simp only [perform, declare]
    split
    · exact List.prefix_refl _
    · split
      · exact List.prefix_refl _
      · exact List.prefix_append ..
  | registerType name type => exact List.prefix_refl _
  | registerClass className make => exact List.prefix_refl _
  | start services configuration =>
    rcases start_cases registry services configuration with ⟨error, -, same⟩ | ⟨-, -, -, after⟩
    · simp only [perform, same, List.prefix_refl]
    · simp only [perform, after, List.prefix_refl]
  | stop => exact absurd rfl kept
  | unregister type => exact List.prefix_refl _

theorem declared_foldl (more : List Operation) (kept : .stop ∉ more) :
    registry.declared <+: (more.foldl perform registry).declared := by
  induction more generalizing registry with
  | nil => exact List.prefix_refl _
  | cons operation rest ih =>
    have first := (List.ne_of_not_mem_cons kept).symm
    exact (declared_perform first).trans (ih (List.not_mem_of_not_mem_cons kept))

theorem mem_declared_of_accepted (accepted : (registry.declare declaration).1 = .ok true) :
    declaration ∈ (registry.declare declaration).2.declared := by
  unfold declare at accepted ⊢
  split
  · simp [*] at accepted
  · split
    · simp [*] at accepted
    · simp

/-- Each item of a load list is loaded or left out. -/
theorem Yields.of_mem (yields : registry.Yields services items contributions)
    {item : LoadItem} (mem : item ∈ items) :
    (∃ contribution ∈ contributions, registry.Contributes services item contribution) ∨
      registry.LeavesOut services item := by
  induction yields with
  | nil => cases mem
  | @contributes _ contribution _ _ first others ih =>
    rcases List.mem_cons.1 mem with rfl | mem
    · exact .inl ⟨contribution, List.mem_cons_self, first⟩
    · refine (ih mem).imp_left fun ⟨contribution, listed, here⟩ => ?_
      exact ⟨contribution, List.mem_cons_of_mem _ listed, here⟩
  | leavesOut first others ih =>
    rcases List.mem_cons.1 mem with rfl | mem
    · exact .inr first
    · exact ih mem

/-- The codec of a declaration is in effect: all types that it names are known and written, by it or
by a codec that came later, and its implementation reads the frames of the id that it declares. -/
def InEffect (registry : Registry) (codec : Codec) : Prop :=
  ∃ (id : UInt8) (types : List ObjectType),
    codec.descriptor.id.map Int32.toInt = some (id.toNat : Int) ∧
    registry.catalog.Handles codec types ∧
    (∀ type ∈ types, ∃ writer, registry.dispatch.writers.get? type = some writer) ∧
    ∃ reader, registry.dispatch.readers.get? (.internal id) = some reader ∧
      reader.implementation = codec.implementation

theorem inEffect_of_started (listed : declaration ∈ registry.added)
    (mandatory : declaration.isOptional = false)
    (started : (registry.start services configuration).answer = .ok ()) :
    (registry.start services configuration).registry.InEffect (declaration.make services) := by
  obtain ⟨contributions, yields, agree⟩ := exists_yields started
  have reflects := (yields.reflects_start started).2
  have item : LoadItem.declared declaration ∈ registry.loadList configuration := by
    simp [loadList, listed]
  rcases yields.of_mem item with ⟨contribution, mem, contributes⟩ | leavesOut
  case inr =>
    obtain ⟨-, -, isOptional, -⟩ := leavesOut
    cases mandatory.symm.trans isOptional
  case inl =>
    cases contributes with
    | @declared _ id types number inRange handles =>
      have catalog : (registry.start services configuration).registry.catalog =
          registry.catalog := by rw [(of_start_ok started).2.2]
      refine ⟨id, types, number, catalog ▸ handles, fun type handled => ?_, ?_⟩
      · rw [reflects.writer]
        exact Contribution.exists_last? mem (decide_eq_true handled)
      · obtain ⟨reader, found⟩ : ∃ reader,
            Contribution.lastUnder? contributions (.internal id) = some reader :=
          Contribution.exists_last? mem (decide_eq_true rfl)
        refine ⟨reader, (reflects.reader _).trans found, ?_⟩
        -- Who comes last to the id agrees with the declaration on the implementation.
        obtain ⟨last, lastMem, key, rfl⟩ := Contribution.mem_of_last? found
        exact agree last lastMem _ mem (of_decide_eq_true key).symm

/-! ## A name that a built-in codec has -/

/-- Registries that differ at most in declarations which count for nothing. -/
structure Alike (registry other : Registry) : Prop where
  left : registry.Sound
  right : other.Sound
  dispatch : registry.dispatch = other.dispatch
  catalog : registry.catalog = other.catalog
  counted : registry.counted = other.counted

theorem Alike.isRunning (alike : registry.Alike other) : registry.isRunning = other.isRunning :=
  congrArg Dispatch.isRunning alike.dispatch

theorem Alike.load (alike : registry.Alike other) (services : Services)
    (configuration : Configuration) :
    registry.load services configuration = other.load services configuration := by
  have items : registry.loadList configuration = other.loadList configuration := by
    rw [loadList, loadList, alike.left.added_eq, alike.right.added_eq, alike.counted]
  have step : registry.loadItem services = other.loadItem services := by
    funext item
    cases item <;> simp only [loadItem, alike.catalog]
  rw [load_eq_each, load_eq_each, items, step]

/-- Both answer a start in the same way, and stay alike. -/
theorem Alike.start (alike : registry.Alike other) (services : Services)
    (configuration : Configuration) :
    (registry.start services configuration).answer = (other.start services configuration).answer ∧
      (registry.start services configuration).registry.Alike
        (other.start services configuration).registry := by
  have same : (registry.start services configuration).answer =
        (other.start services configuration).answer ∧
      (registry.start services configuration).registry.dispatch =
        (other.start services configuration).registry.dispatch ∧
      (registry.start services configuration).registry.catalog =
        (other.start services configuration).registry.catalog ∧
      (registry.start services configuration).registry.counted =
        (other.start services configuration).registry.counted := by
    unfold Registry.start
    rw [alike.isRunning, alike.load]
    split
    · exact ⟨rfl, alike.dispatch, alike.catalog, alike.counted⟩
    · dsimp only
      split
      · exact ⟨rfl, alike.dispatch, alike.catalog, alike.counted⟩
      · exact ⟨rfl, rfl, alike.catalog, alike.counted⟩
  obtain ⟨answer, dispatch, catalog, counted⟩ := same
  exact ⟨answer, start_sound alike.left .., start_sound alike.right .., dispatch, catalog, counted⟩

/-- Whoever has a name that no built-in codec has counts. -/
theorem any_name_iff (counts : ¬ declaration.Shadowed) :
    (registry.declared.any fun known => known.name = declaration.name) = true ↔
      declaration.name ∈ registry.counted.map name := by
  simp only [List.any_eq_true, decide_eq_true_eq, counted, List.mem_map, List.mem_filter]
  constructor
  · rintro ⟨known, listed, same⟩
    refine ⟨known, ⟨listed, ?_⟩, same⟩
    rwa [Shadowed, same]
  · rintro ⟨known, ⟨listed, -⟩, same⟩
    exact ⟨known, listed, same⟩

/-- A declaration counts when it comes to a stopped registry, under a name that neither a built-in
codec nor another one that counts has. -/
theorem counted_declare (registry : Registry) (declaration : Declaration) :
    (registry.declare declaration).2.counted =
      if registry.isRunning = true ∨ declaration.Shadowed ∨
        declaration.name ∈ registry.counted.map name then registry.counted
      else registry.counted ++ [declaration] := by
  unfold declare
  by_cases running : registry.isRunning = true
  · rw [if_pos running, if_pos (.inl running)]
  rw [if_neg running]
  by_cases shadowed : declaration.Shadowed
  · have nothing : [declaration].filter (fun declaration => ¬ declaration.Shadowed) = [] := by
      simp [shadowed]
    rw [if_pos (Or.inr (Or.inl shadowed))]
    split
    · rfl
    · exact (List.filter_append ..).trans (by rw [nothing, List.append_nil, counted])
  · have itself : [declaration].filter (fun declaration => ¬ declaration.Shadowed) =
        [declaration] := by simp [shadowed]
    simp only [running, shadowed, Bool.false_eq_true, false_or, ← any_name_iff shadowed]
    split
    · rfl
    · exact (List.filter_append ..).trans (by rw [itself, counted])

theorem Alike.declare (alike : registry.Alike other) (declaration : Declaration) :
    (registry.declare declaration).2.Alike (other.declare declaration).2 := by
  obtain ⟨dispatch, catalog⟩ := registry.declare_keeps declaration
  obtain ⟨dispatch', catalog'⟩ := other.declare_keeps declaration
  refine ⟨declare_sound alike.left declaration, declare_sound alike.right declaration, ?_, ?_, ?_⟩
  · rw [dispatch, dispatch', alike.dispatch]
  · rw [catalog, catalog', alike.catalog]
  · rw [counted_declare, counted_declare, alike.isRunning, alike.counted]

theorem Alike.perform (alike : registry.Alike other) (operation : Operation) :
    (registry.perform operation).Alike (other.perform operation) := by
  have left := perform_sound alike.left operation
  have right := perform_sound alike.right operation
  cases operation with
  | declare declaration => exact alike.declare declaration
  | registerType name type =>
    have catalog := congrArg (Catalog.registerType · name type) alike.catalog
    exact ⟨left, right, alike.dispatch, catalog, alike.counted⟩
  | registerClass className make =>
    have catalog := congrArg (Catalog.registerClass · className make) alike.catalog
    exact ⟨left, right, alike.dispatch, catalog, alike.counted⟩
  | start services configuration => exact (alike.start services configuration).2
  | stop => exact ⟨left, right, rfl, alike.catalog, rfl⟩
  | unregister type =>
    have dispatch := congrArg (fun dispatch => (dispatch.unregister type).2) alike.dispatch
    exact ⟨left, right, dispatch, alike.catalog, alike.counted⟩

theorem Alike.foldl (alike : registry.Alike other) (more : List Operation) :
    (more.foldl Registry.perform registry).Alike (more.foldl Registry.perform other) := by
  induction more generalizing registry other with
  | nil => exact alike
  | cons operation rest ih => exact ih (alike.perform operation)

/-- To declare a codec under the name of a built-in one changes nothing that counts. -/
theorem Sound.declare_alike (sound : registry.Sound) (shadowed : declaration.Shadowed) :
    (registry.declare declaration).2.Alike registry := by
  obtain ⟨dispatch, catalog⟩ := registry.declare_keeps declaration
  refine ⟨declare_sound sound declaration, sound, dispatch, catalog, ?_⟩
  rw [counted_declare, if_pos (.inr (.inl shadowed))]

/-! ## Accepted declarations -/

/-- A declaration that was accepted before a start, with no stop between the two. Under a name of
its own, and unless it is optional, its codec is in effect after the start. Under the name of a
built-in codec it was accepted all the same, but the start comes to what it would have come to
without the declaration. -/
theorem accepted_in_effect (operations more : List Operation) {declaration : Declaration}
    (accepted : ((after operations).declare declaration).1 = .ok true) (kept : .stop ∉ more)
    {services : Services} {configuration : Configuration}
    (started : ((after (operations ++ .declare declaration :: more)).start services
      configuration).answer = .ok ()) :
    let registry := ((after (operations ++ .declare declaration :: more)).start services
      configuration).registry
    (¬ declaration.Shadowed → declaration.isOptional = false →
      registry.InEffect (declaration.make services)) ∧
    (declaration.Shadowed →
      ((after (operations ++ more)).start services configuration).answer = .ok () ∧
      registry.dispatch =
        ((after (operations ++ more)).start services configuration).registry.dispatch) := by
  intro registry
  constructor
  · intro counts mandatory
    have sound := sound_after (operations ++ .declare declaration :: more)
    refine inEffect_of_started ?_ mandatory started
    rw [sound.added_eq]
    rw [after_append] at sound ⊢
    have declared := (declared_foldl more kept).subset (mem_declared_of_accepted accepted)
    exact List.mem_filter.2 ⟨declared, by simpa using counts⟩
  · intro shadowed
    have alike : (after (operations ++ .declare declaration :: more)).Alike
        (after (operations ++ more)) := by
      rw [after_append, after_append]
      exact ((sound_after operations).declare_alike shadowed).foldl more
    obtain ⟨answers, after⟩ := alike.start services configuration
    exact ⟨answers.symm.trans started, after.dispatch⟩

/-- Records of a number again, as a declaration of the internal id 130. -/
def tally (name : String) : Declaration :=
  ⟨name, false, fun _ =>
    { counting "A" with descriptor := ⟨some 130, [.exact (.application "A")]⟩ }.codec⟩

/-- Under a name of its own the declaration takes effect; under that of the codec of maps the start
comes to what it is without it. -/
theorem accepted_in_effect_tally :
    ((after [.declare (tally "tally")]).start .bare .standard).registry.InEffect
      ((tally "tally").make .bare) ∧
    ((after [.declare (tally Codec.Maps.implementation)]).start .bare .standard).registry.dispatch =
      (empty.start .bare .standard).registry.dispatch := by
  have started : ((after [.declare (tally "tally")]).start .bare .standard).answer = .ok () ∧
      ((after [.declare (tally Codec.Maps.implementation)]).start .bare .standard).answer =
        .ok () := by decide +kernel
  have own := accepted_in_effect [] [] rfl List.not_mem_nil started.1
  have taken := accepted_in_effect [] [] rfl List.not_mem_nil started.2
  exact ⟨own.1 (by decide +kernel) rfl, (taken.2 (by decide +kernel)).2⟩

/-- The declaration was accepted and is not optional, and the start succeeded, but no codec writes
the type of the records. -/
theorem accepted_without_effect :
    let declaration := tally Codec.Maps.implementation
    let outcome := (after [.declare declaration]).start .bare .standard
    (empty.declare declaration).1 = .ok true ∧ declaration.isOptional = false ∧
    outcome.answer = .ok () ∧ ¬ outcome.registry.InEffect (declaration.make .bare) := by
  intro declaration outcome
  have started : outcome.answer = .ok () := by decide +kernel
  have unwritten : outcome.registry.dispatch.writers.get? (.application "A") = none := by
    decide +kernel
  refine ⟨rfl, rfl, started, ?_⟩
  rintro ⟨id, types, number, handles, written, -⟩
  have known : [some (ObjectType.application "A")] = types.map some := handles.known
  obtain ⟨type, rest, rfl, same, -⟩ := List.map_eq_cons_iff.1 known.symm
  obtain ⟨writer, found⟩ := written type List.mem_cons_self
  rw [Option.some.inj same, unwritten] at found
  cases found

end Registry

end CodecRegistry
