import CodecRegistry.Codec.Records
import CodecRegistry.Proofs.History

/-! Taking a type out of a registry. Its writer goes, and its reader ought to go with the last type
under its key. But whether a type is left is asked of bindings that count as the same, and bindings
with different foreign ids do if one implementation stands behind both: such a binding holds a
reader in place that nothing writes to any more. -/

namespace CodecRegistry

namespace WireId

theorem frameByte_eq_iff {a b : WireId} (ha : a.Valid) (hb : b.Valid) :
    a.frameByte = b.frameByte ↔ a = b ∨ (a.isForeign = true ∧ b.isForeign = true) := by
  cases a with
  | internal a =>
    cases b with
    | internal b => simp [frameByte, isForeign]
    | foreign b => simpa [frameByte, isForeign] using UInt8.ne_of_lt ha
  | foreign a =>
    cases b with
    | internal b => simpa [frameByte, isForeign] using (UInt8.ne_of_lt hb).symm
    | foreign b => simp [frameByte, isForeign]

end WireId

namespace Dispatch

variable {dispatch : Dispatch} {type : ObjectType} {binding : Binding}

/-- Another type is written under the same key. -/
def Shares (dispatch : Dispatch) (type : ObjectType) (binding : Binding) : Prop :=
  ∃ other writer, other ≠ type ∧ dispatch.writers.get? other = some writer ∧
    writer.key = binding.key

/-- The implementation behind a foreign id writes another type under a different one. -/
def Lingers (dispatch : Dispatch) (type : ObjectType) (binding : Binding) : Prop :=
  binding.id.isForeign = true ∧
    ∃ other writer, other ≠ type ∧ dispatch.writers.get? other = some writer ∧
      writer.key ≠ binding.key ∧ writer.id.isForeign = true ∧
        writer.implementation = binding.implementation

/-- What taking a type out is meant to do to the tables: the type's writer goes, and the reader at
its key goes once no type is written under that key. -/
structure TakesOut (before after : Dispatch) (type : ObjectType) (binding : Binding) : Prop where
  writers : ∀ other, after.writers.get? other =
    if other = type then none else before.writers.get? other
  shared : before.Shares type binding → ∀ key, after.readers.get? key = before.readers.get? key
  last : ¬ before.Shares type binding → ∀ key, after.readers.get? key =
    if key = binding.key then none else before.readers.get? key

/-- The reader stays if the key is shared, and also if it lingers. -/
theorem Consistent.releases_iff_not (consistent : dispatch.Consistent)
    (found : dispatch.writers.get? type = some binding) :
    dispatch.releases type binding = true ↔
      ¬ dispatch.Shares type binding ∧ ¬ dispatch.Lingers type binding := by
  rw [consistent.releases_iff found]
  have valid := consistent.valid found
  constructor
  · intro different
    refine ⟨?_, ?_⟩
    · rintro ⟨other, writer, apart, known, sameKey⟩
      have alike := consistent.same_of_key known found sameKey
      have := different other writer apart known
      simp [Binding.sameAs, alike.1, alike.2] at this
    · rintro ⟨foreign, other, writer, apart, known, -, alsoForeign, sameCode⟩
      have := different other writer apart known
      have sameByte := (WireId.frameByte_eq_iff (consistent.valid known) valid).2
        (.inr ⟨alsoForeign, foreign⟩)
      simp [Binding.sameAs, sameByte, sameCode] at this
  · rintro ⟨alone, gone⟩ other writer apart known
    rw [Bool.eq_false_iff]
    intro same
    simp only [Binding.sameAs, decide_eq_true_eq] at same
    by_cases sameKey : writer.key = binding.key
    · exact alone ⟨other, writer, apart, known, sameKey⟩
    · rcases (WireId.frameByte_eq_iff (consistent.valid known) valid).1 same.1 with sameId | foreign
      · exact sameKey (congrArg WireId.key sameId)
      · exact gone ⟨foreign.2, other, writer, apart, known, sameKey, foreign.1, same.2⟩

theorem writers_unregister (found : dispatch.writers.get? type = some binding)
    (other : ObjectType) :
    (dispatch.unregister type).2.writers.get? other =
      if other = type then none else dispatch.writers.get? other := by
  rw [unregister_of_writer found]
  exact FiniteMap.get?_erase ..

theorem readers_unregister (found : dispatch.writers.get? type = some binding) :
    (dispatch.unregister type).2.readers =
      if dispatch.releases type binding then dispatch.readers.erase binding.key
      else dispatch.readers := by
  rw [unregister_of_writer found]

/-- A reader that lingers is the only thing that goes wrong. -/
theorem Consistent.takesOut_iff (consistent : dispatch.Consistent)
    (found : dispatch.writers.get? type = some binding) :
    dispatch.TakesOut (dispatch.unregister type).2 type binding ↔
      dispatch.Shares type binding ∨ ¬ dispatch.Lingers type binding := by
  have releases := consistent.releases_iff_not found
  constructor
  · intro takesOut
    by_contra wrong
    obtain ⟨alone, lingers⟩ := not_or.1 wrong
    have kept : ¬ dispatch.releases type binding = true := by
      rw [releases]
      exact fun released => lingers released.2
    have gone := takesOut.last alone binding.key
    rw [readers_unregister found, if_neg kept, if_pos rfl] at gone
    obtain ⟨reader, atKey, -⟩ := consistent.readable found
    rw [atKey] at gone
    cases gone
  · intro right
    refine ⟨writers_unregister found, ?_, ?_⟩
    · intro shared key
      have kept : ¬ dispatch.releases type binding = true := by
        rw [releases]
        exact fun released => released.1 shared
      rw [readers_unregister found, if_neg kept]
    · intro alone key
      have released := releases.2 ⟨alone, right.resolve_left alone⟩
      rw [readers_unregister found, if_pos released]
      exact FiniteMap.get?_erase ..

/-- A frame whose key has no reader is not known to a running registry. -/
theorem decode_unknown {id : WireId} (valid : id.Valid) (running : dispatch.isRunning = true)
    (absent : dispatch.readers.get? id.key = none) (cancelled : Bool) (rest : Bytes) :
    (dispatch.decode cancelled (id.header ++ rest)).result = .error (.unknownFrame id.key) := by
  have miss : dispatch.decode cancelled (id.header ++ rest) =
      ⟨.error (dispatch.readerMiss cancelled id.key), rest, dispatch.readerMissEvents id.key⟩ := by
    show dispatch.readFrame cancelled (Frame.maxNesting - 1 + 1) (id.header ++ rest) = _
    simp only [readFrame, Frame.readKey_header valid, absent]
  rw [miss, readerMiss, if_pos running]

end Dispatch

namespace Registry

/-- Taking a type out, at any time of a registry's life. It does what it is meant to do unless the
reader lingers; then the registry goes on reading frames that it can no longer write. -/
theorem unregister_effect (operations : List Operation) (type : ObjectType) :
    let before := after operations
    let outcome := before.unregister type
    (before.dispatch.writers.get? type = none →
      outcome.answer = false ∧ outcome.registry = before) ∧
    ∀ binding, before.dispatch.writers.get? type = some binding →
      outcome.answer = true ∧
      outcome.registry.isRunning = before.isRunning ∧
      outcome.registry.declared = before.declared ∧
      outcome.registry.catalog = before.catalog ∧
      (before.dispatch.TakesOut outcome.registry.dispatch type binding ↔
        before.dispatch.Shares type binding ∨ ¬ before.dispatch.Lingers type binding) ∧
      (∀ other, outcome.registry.dispatch.writers.get? other =
        if other = type then none else before.dispatch.writers.get? other) ∧
      (before.dispatch.Lingers type binding →
        outcome.registry.dispatch.readers = before.dispatch.readers) ∧
      (before.isRunning = true → ¬ before.dispatch.Shares type binding →
        (¬ before.dispatch.Lingers type binding → ∀ cancelled rest,
          (outcome.registry.dispatch.decode cancelled (binding.id.header ++ rest)).result =
            .error (.unknownFrame binding.key)) ∧
        (before.dispatch.Lingers type binding →
          ∃ reader, before.dispatch.readers.get? binding.key = some reader ∧
            ∀ cancelled rest, outcome.registry.dispatch.decode cancelled
                (binding.id.header ++ rest) =
              reader.codec.read.run
                (outcome.registry.dispatch.readFrame cancelled (Frame.maxNesting - 1)) 1 cancelled
                rest)) := by
  intro before outcome
  have consistent := (sound_after operations).consistent
  refine ⟨?_, ?_⟩
  · intro absent
    have nothing := Dispatch.unregister_of_none absent
    simp only [outcome, unregister, nothing]
    exact ⟨trivial, trivial⟩
  intro binding found
  have valid := consistent.valid found
  have releases := consistent.releases_iff_not found
  have readers := Dispatch.readers_unregister found
  have kept (lingers : before.dispatch.Lingers type binding) :
      (before.dispatch.unregister type).2.readers = before.dispatch.readers := by
    rw [readers, if_neg fun released => (releases.1 released).2 lingers]
  refine ⟨?_, Dispatch.isRunning_unregister _ type, rfl, rfl, consistent.takesOut_iff found,
    Dispatch.writers_unregister found, kept, fun running alone => ⟨?_, ?_⟩⟩
  · simp only [outcome, unregister, Dispatch.unregister_of_writer found]
  · intro gone cancelled rest
    refine Dispatch.decode_unknown valid ?_ ?_ cancelled rest
    · exact (Dispatch.isRunning_unregister _ type).trans running
    · show (before.dispatch.unregister type).2.readers.get? binding.key = none
      rw [readers, if_pos (releases.2 ⟨alone, gone⟩), FiniteMap.get?_erase, if_pos rfl]
  · intro lingers
    obtain ⟨reader, atKey, -⟩ := consistent.readable found
    refine ⟨reader, atKey, ?_⟩
    intro cancelled rest
    refine Dispatch.readFrame_header valid ?_ (Frame.maxNesting - 1) rest
    show (before.dispatch.unregister type).2.readers.get? binding.key = some reader
    rw [kept lingers, atKey]

/-- One implementation under two foreign ids, each for a record type with one octet. -/
def twoIds : Configuration :=
  let codec (typeName : String) : Codec := Codec.RecordLayout.codec
    ⟨"plug", ⟨none, [.exact (.application typeName)]⟩, [typeName], [.scalar .byte], none⟩
  { Configuration.standard with
    entries := [⟨some (codec "A"), none, some 500⟩, ⟨some (codec "B"), none, some 501⟩] }

/-- The reader of the first type stays, even when the implementation writes nothing any more. -/
theorem unregister_lingers :
    let before := after [.start .bare twoIds]
    let first := (before.unregister (.application "A")).registry
    let last := (first.unregister (.application "B")).registry
    (∃ binding, before.dispatch.writers.get? (.application "A") = some binding ∧
      ¬ before.dispatch.TakesOut first.dispatch (.application "A") binding) ∧
    (first.dispatch.decode false [255, 0xF4, 0x03, 7]).result.isOk = true ∧
    last.isRunning = true ∧
    (∀ writer ∈ last.dispatch.writers.values, writer.implementation ≠ "plug") ∧
    (last.dispatch.decode false [255, 0xF4, 0x03, 7]).result.isOk = true := by
  intro before first last
  obtain ⟨key, alone, stays, still⟩ :
      (before.dispatch.writers.get? (.application "A")).map Binding.key = some (.foreign 500) ∧
      (∀ writer ∈ (before.dispatch.writers.erase (.application "A")).values,
        writer.key ≠ .foreign 500) ∧
      (first.dispatch.readers.get? (.foreign 500)).isSome = true ∧
      (first.dispatch.decode false [255, 0xF4, 0x03, 7]).result.isOk = true ∧
      last.isRunning = true ∧
      (∀ writer ∈ last.dispatch.writers.values, writer.implementation ≠ "plug") ∧
      (last.dispatch.decode false [255, 0xF4, 0x03, 7]).result.isOk = true := by
    decide +kernel
  obtain ⟨binding, found, key⟩ := Option.map_eq_some_iff.1 key
  refine ⟨⟨binding, found, fun takesOut => ?_⟩, still⟩
  have gone := takesOut.last ?_ binding.key
  · rw [key] at gone
    rw [gone] at stays
    cases stays
  · rintro ⟨other, writer, apart, known, sameKey⟩
    refine alone writer ((FiniteMap.mem_values_iff _).2 ⟨other, ?_⟩) (sameKey.trans key)
    exact Dispatch.writer_erase.2 ⟨apart, known⟩

end Registry

end CodecRegistry
