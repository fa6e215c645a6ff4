import CodecRegistry.Proofs.Consistency
import Mathlib.Data.List.Induction

/-! A registry over its whole life. Whatever was done to it, its tables agree, they are empty while
it is stopped, and its declarations have different names. One operation keeps this, so every
history does. -/

namespace CodecRegistry

theorem Dispatch.Consistent.started {dispatch : Dispatch} (consistent : dispatch.Consistent) :
    { dispatch with isRunning := true }.Consistent :=
  ⟨consistent.keyed, consistent.readable⟩

namespace Registry

/-- What changes a registry. -/
inductive Operation where
  | declare (declaration : Declaration)
  | registerType (name : String) (type : ObjectType)
  | registerClass (className : String) (make : CodecFactory)
  | start (services : Services) (configuration : Configuration)
  | stop
  | unregister (type : ObjectType)

/-- The registry after one operation, which may have failed. -/
def perform (registry : Registry) : Operation → Registry
  | .declare declaration => (registry.declare declaration).2
  | .registerType name type => registry.registerType name type
  | .registerClass className make => registry.registerClass className make
  | .start services configuration => (registry.start services configuration).registry
  | .stop => registry.stop.registry
  | .unregister type => (registry.unregister type).registry

/-- What a new registry has become after operations. -/
def after (operations : List Operation) : Registry := operations.foldl perform empty

theorem after_append (operations more : List Operation) :
    after (operations ++ more) = more.foldl perform (after operations) := List.foldl_append

/-- What holds of a registry at any time. -/
structure Sound (registry : Registry) : Prop where
  consistent : registry.dispatch.Consistent
  stopped : registry.isRunning = false → registry.dispatch = .empty
  distinct : (registry.declared.map Declaration.name).Nodup

variable {registry : Registry}

theorem sound_empty : empty.Sound where
  consistent := Dispatch.consistent_empty
  stopped := fun _ => rfl
  distinct := List.nodup_nil

theorem declare_sound (sound : registry.Sound) (declaration : Declaration) :
    (registry.declare declaration).2.Sound := by
  unfold declare
  split
  · exact sound
  · split
    · exact sound
    · rename_i fresh
      refine ⟨sound.consistent, sound.stopped, ?_⟩
      simp only [List.any_eq_true, decide_eq_true_eq, not_exists, not_and] at fresh
      rw [List.map_append, List.nodup_append]
      refine ⟨sound.distinct, by simp, ?_⟩
      intro name mem other here
      obtain ⟨known, listed, rfl⟩ := List.mem_map.1 mem
      rw [List.map_singleton, List.mem_singleton] at here
      rw [here]
      exact fresh known listed

theorem load_consistent (registry : Registry) (services : Services)
    (configuration : Configuration) :
    (registry.load services configuration).dispatch.Consistent := by
  apply load_keeps (P := Dispatch.Consistent) Dispatch.consistent_empty
  intro binding type loads dispatch free consistent
  exact consistent.bind loads.valid free type

theorem start_sound (sound : registry.Sound) (services : Services) (configuration : Configuration) :
    (registry.start services configuration).registry.Sound := by
  rcases start_cases registry services configuration with ⟨error, -, same⟩ | ⟨-, -, -, after⟩
  · rw [same]
    exact sound
  · rw [after]
    exact ⟨(load_consistent ..).started, fun stopped => Bool.noConfusion stopped, sound.distinct⟩

theorem unregister_sound (sound : registry.Sound) (type : ObjectType) :
    (registry.unregister type).registry.Sound := by
  refine ⟨sound.consistent.unregister type, ?_, sound.distinct⟩
  intro stopped
  have empty : registry.dispatch = .empty :=
    sound.stopped ((Dispatch.isRunning_unregister ..).symm.trans stopped)
  show (registry.dispatch.unregister type).2 = .empty
  rw [empty]
  rfl

theorem perform_sound (sound : registry.Sound) (operation : Operation) :
    (registry.perform operation).Sound := by
  cases operation with
  | declare declaration => exact declare_sound sound declaration
  | registerType name type => exact ⟨sound.consistent, sound.stopped, sound.distinct⟩
  | registerClass className make => exact ⟨sound.consistent, sound.stopped, sound.distinct⟩
  | start services configuration => exact start_sound sound services configuration
  | stop => exact ⟨Dispatch.consistent_empty, fun _ => rfl, List.nodup_nil⟩
  | unregister type => exact unregister_sound sound type

/-- What every operation keeps holds of a registry at any time, if it holds of a new one. -/
theorem after_keeps {P : Registry → Prop} (start : P empty)
    (keeps : ∀ registry operation, P registry → P (registry.perform operation))
    (operations : List Operation) : P (after operations) := by
  suffices run : ∀ registry : Registry, P registry → P (operations.foldl perform registry) from
    run empty start
  induction operations with
  | nil =>
    intro registry holds
    exact holds
  | cons operation rest ih =>
    intro registry holds
    exact ih _ (keeps registry operation holds)

theorem sound_after (operations : List Operation) : (after operations).Sound :=
  after_keeps sound_empty (fun _ operation sound => perform_sound sound operation) operations

/-- A declaration is noted for the next start, and nothing else changes. -/
theorem declare_keeps (registry : Registry) (declaration : Declaration) :
    (registry.declare declaration).2.dispatch = registry.dispatch ∧
      (registry.declare declaration).2.catalog = registry.catalog := by
  unfold declare
  split
  · exact ⟨rfl, rfl⟩
  · split <;> exact ⟨rfl, rfl⟩

/-- An operation after which a running registry still runs leaves the declarations alone. -/
theorem perform_declared (operation : Operation) (running : registry.isRunning = true)
    (still : (registry.perform operation).isRunning = true) :
    (registry.perform operation).declared = registry.declared := by
  cases operation with
  | declare declaration => simp only [perform, declare, running, if_true]
  | registerType name type => rfl
  | registerClass className make => rfl
  | start services configuration => simp only [perform, start, running, if_true]
  | stop => cases still
  | unregister type => rfl

/-- While a registry runs, nothing but taking types out changes its tables. -/
theorem perform_dispatch (operation : Operation) (running : registry.isRunning = true)
    (still : (registry.perform operation).isRunning = true) :
    (registry.perform operation).dispatch = registry.dispatch ∨
      ∃ type, operation = .unregister type ∧
        (registry.perform operation).dispatch = (registry.dispatch.unregister type).2 := by
  cases operation with
  | declare declaration => exact .inl (registry.declare_keeps declaration).1
  | registerType name type => exact .inl rfl
  | registerClass className make => exact .inl rfl
  | start services configuration =>
    left
    simp only [perform, start, running, if_true]
  | stop => cases still
  | unregister type => exact .inr ⟨type, rfl, rfl⟩

theorem running_nil_iff :
    (∀ front, front <+: [] → (front.foldl perform registry).isRunning = true) ↔
      registry.isRunning = true := by
  refine ⟨fun running => running [] List.nil_prefix, fun runs front before => ?_⟩
  rw [List.prefix_nil.1 before]
  exact runs

/-- A registry runs all the time if it runs now, and from the next operation on. -/
theorem running_cons_iff {operation : Operation} {more : List Operation} :
    (∀ front, front <+: operation :: more → (front.foldl perform registry).isRunning = true) ↔
      registry.isRunning = true ∧
        ∀ front, front <+: more →
          (front.foldl perform (registry.perform operation)).isRunning = true := by
  constructor
  · intro running
    refine ⟨running [] List.nil_prefix, fun front before => ?_⟩
    exact running (operation :: front) (List.cons_prefix_cons.2 ⟨rfl, before⟩)
  · rintro ⟨now, later⟩ front before
    rcases List.prefix_cons_iff.1 before with rfl | ⟨rest, rfl, fits⟩
    · exact now
    · exact later rest fits

/-- Only a start that succeeds sets a stopped registry running. -/
theorem started_of_perform {operation : Operation} (stopped : registry.isRunning = false)
    (running : (registry.perform operation).isRunning = true) :
    ∃ services configuration, operation = .start services configuration ∧
      (registry.start services configuration).answer = .ok () := by
  have idle (same : (registry.perform operation).isRunning = registry.isRunning) : False :=
    Bool.false_ne_true (stopped.symm.trans (same.symm.trans running))
  cases operation with
  | declare declaration =>
    exact (idle (congrArg Dispatch.isRunning (registry.declare_keeps declaration).1)).elim
  | registerType name type => exact (idle rfl).elim
  | registerClass className make => exact (idle rfl).elim
  | start services configuration =>
    rcases start_cases registry services configuration with ⟨error, -, same⟩ | ⟨-, -, started, -⟩
    · exact (idle (congrArg isRunning same)).elim
    · exact ⟨services, configuration, rfl, started⟩
  | stop => cases running
  | unregister type => exact (idle (Dispatch.isRunning_unregister ..)).elim

/-- A running registry was started, and has kept running since. -/
theorem running_since {operations : List Operation}
    (running : (after operations).isRunning = true) :
    ∃ before services configuration more,
      operations = before ++ .start services configuration :: more ∧
      ((after before).start services configuration).answer = .ok () ∧
      ∀ front, front <+: more →
        (front.foldl perform ((after before).start services configuration).registry).isRunning =
          true := by
  induction operations using List.reverseRecOn with
  | nil => cases running
  | append_singleton earlier operation ih =>
    have now : (after (earlier ++ [operation])).isRunning = true := running
    rw [after_append] at running
    by_cases ran : (after earlier).isRunning = true
    · obtain ⟨before, services, configuration, more, rfl, started, since⟩ := ih ran
      refine ⟨before, services, configuration, more ++ [operation], by simp, started, ?_⟩
      intro front earlier
      rcases List.prefix_concat_iff.1 earlier with rfl | within
      · rw [List.append_assoc, after_append] at now
        exact now
      · exact since front within
    · obtain ⟨services, configuration, rfl, started⟩ :=
        started_of_perform (Bool.eq_false_iff.2 ran) running
      exact ⟨earlier, services, configuration, [], rfl, started, running_nil_iff.2 running⟩

/-- What the operations of a history keep while a registry runs, the whole of it keeps, if it never
stops the registry. -/
theorem running_keeps_of_mem {P : Registry → Prop} (more : List Operation)
    (keeps : ∀ registry, ∀ operation ∈ more, registry.isRunning = true →
      (registry.perform operation).isRunning = true → P registry → P (registry.perform operation))
    (running : ∀ front, front <+: more → (front.foldl perform registry).isRunning = true)
    (start : P registry) : P (more.foldl perform registry) := by
  induction more generalizing registry with
  | nil => exact start
  | cons operation rest ih =>
    obtain ⟨now, later⟩ := running_cons_iff.1 running
    have still := later [] List.nil_prefix
    apply ih _ later
    · exact keeps registry operation List.mem_cons_self now still start
    · exact fun registry operation mem => keeps registry operation (List.mem_cons_of_mem _ mem)

theorem running_keeps {P : Registry → Prop}
    (keeps : ∀ registry operation, registry.isRunning = true →
      (registry.perform operation).isRunning = true → P registry → P (registry.perform operation))
    (more : List Operation)
    (running : ∀ front, front <+: more → (front.foldl perform registry).isRunning = true)
    (start : P registry) : P (more.foldl perform registry) :=
  running_keeps_of_mem more (fun registry operation _ => keeps registry operation) running start

/-- A registry that keeps running, and from which nothing is taken out, keeps its tables. -/
theorem dispatch_of_running (more : List Operation)
    (running : ∀ front, front <+: more → (front.foldl perform registry).isRunning = true)
    (kept : ∀ type, .unregister type ∉ more) :
    (more.foldl perform registry).dispatch = registry.dispatch := by
  apply running_keeps_of_mem (P := fun later => later.dispatch = registry.dispatch) more _ running
  · rfl
  · intro later operation mem now still same
    rcases perform_dispatch operation now still with unchanged | ⟨type, rfl, -⟩
    · exact unchanged.trans same
    · exact absurd mem (kept type)

/-- The tables of a registry at any time of its life: empty while it is stopped; each reader at its
own key, in the part of the key space that belongs to its namespace; for each written type a reader
of the same id and implementation, to which its frames go. The names of declarations are different,
and the declarations stay the same for as long as the registry keeps running. -/
theorem tables_after (operations : List Operation) :
    ((after operations).isRunning = false →
      (after operations).dispatch.writers = .empty ∧
        (after operations).dispatch.readers = .empty) ∧
    (∀ key reader, (after operations).dispatch.readers.get? key = some reader →
      key = reader.key ∧
      (∀ id, reader.id = .internal id → key.word = id.toUInt32 ∧ id ≤ 254) ∧
      ∀ id, reader.id = .foreign id → key.word = 0x80000000 ||| id ∧ id ≤ 0x7fffffff) ∧
    (∀ type writer, (after operations).dispatch.writers.get? type = some writer →
      ∃ reader, (after operations).dispatch.readers.get? writer.key = some reader ∧
        reader.id = writer.id ∧ reader.implementation = writer.implementation ∧
        ∀ cancelled object, object.type = type →
          ∃ payload, ((after operations).dispatch.encode cancelled object).written =
              writer.id.header ++ payload ∧
            ∀ rest, (after operations).dispatch.decode cancelled
                (((after operations).dispatch.encode cancelled object).written ++ rest) =
              reader.codec.read.run
                ((after operations).dispatch.readFrame cancelled (Frame.maxNesting - 1)) 1 cancelled
                (payload ++ rest)) ∧
    ((after operations).declared.map Declaration.name).Nodup ∧
    ∀ more, (∀ front, front <+: more → (after (operations ++ front)).isRunning = true) →
      (after (operations ++ more)).declared = (after operations).declared := by
  have sound := sound_after operations
  refine ⟨fun stopped => ?_, fun key reader found => ?_, fun type writer found => ?_,
    sound.distinct, fun more running => ?_⟩
  · rw [sound.stopped stopped]
    exact ⟨rfl, rfl⟩
  · obtain ⟨here, valid⟩ := sound.consistent.keyed found
    refine ⟨here, fun id internal => ?_, fun id foreign => ?_⟩
    · rw [here, Binding.key, internal]
      rw [internal] at valid
      exact ⟨rfl, UInt8.le_iff_toNat_le.2 (Nat.le_of_lt_succ (UInt8.lt_iff_toNat_lt.1 valid))⟩
    · rw [here, Binding.key, foreign]
      rw [foreign] at valid
      exact ⟨rfl, valid⟩
  · obtain ⟨reader, atKey, sameId, sameCode⟩ := sound.consistent.readable found
    refine ⟨reader, atKey, sameId, sameCode, fun cancelled object written => ?_⟩
    subst written
    exact sound.consistent.decode_encode found atKey cancelled
  · simp only [after_append] at running ⊢
    refine running_keeps (P := fun registry => registry.declared = (after operations).declared)
      (fun registry operation now still same => ?_) more running rfl
    rw [perform_declared operation now still, same]

end Registry

end CodecRegistry
