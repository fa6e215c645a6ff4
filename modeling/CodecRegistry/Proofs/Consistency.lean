import CodecRegistry.Proofs.Start

/-! The two tables agree: every reader stands at its own key, and what a writer writes goes to a
reader of the same id and the same implementation. Binding a type keeps this because a key passes
only between instances of one implementation, taking a type out because the reader stays as long as
a type is written under its key. -/

namespace CodecRegistry

namespace Dispatch

/-- The tables agree. -/
structure Consistent (dispatch : Dispatch) : Prop where
  keyed : ∀ {key : FrameKey} {reader : Binding}, dispatch.readers.get? key = some reader →
    key = reader.key ∧ reader.id.Valid
  readable : ∀ {type : ObjectType} {writer : Binding}, dispatch.writers.get? type = some writer →
    ∃ reader, dispatch.readers.get? writer.key = some reader ∧ reader.id = writer.id ∧
      reader.implementation = writer.implementation

variable {dispatch : Dispatch} {type : ObjectType} {binding writer : Binding}

theorem consistent_empty : empty.Consistent where
  keyed := by
    intro key reader found
    cases found
  readable := by
    intro type writer found
    cases found

namespace Consistent

theorem valid (consistent : dispatch.Consistent)
    (found : dispatch.writers.get? type = some writer) : writer.id.Valid := by
  obtain ⟨reader, atKey, sameId, -⟩ := consistent.readable found
  rw [← sameId]
  exact (consistent.keyed atKey).2

/-- Writers with one key have one id and one implementation. -/
theorem same_of_key (consistent : dispatch.Consistent) {other : ObjectType} {second : Binding}
    (found : dispatch.writers.get? type = some writer)
    (foundSecond : dispatch.writers.get? other = some second) (same : writer.key = second.key) :
    writer.id = second.id ∧ writer.implementation = second.implementation := by
  obtain ⟨reader, atKey, sameId, sameCode⟩ := consistent.readable found
  obtain ⟨reader', atKey', sameId', sameCode'⟩ := consistent.readable foundSecond
  rw [same, atKey', Option.some.injEq] at atKey
  subst atKey
  exact ⟨sameId.symm.trans sameId', sameCode.symm.trans sameCode'⟩

theorem bind (consistent : dispatch.Consistent) (valid : binding.id.Valid)
    (free : dispatch.rival? binding = none) (type : ObjectType) :
    (dispatch.bind type binding).Consistent where
  keyed := by
    intro key reader found
    rw [reader_bind] at found
    split at found
    · rename_i here
      cases found
      exact ⟨here, valid⟩
    · exact consistent.keyed found
  readable := by
    intro other writer found
    rw [writer_bind] at found
    rw [reader_bind]
    split at found
    · cases found
      exact ⟨binding, if_pos rfl, rfl, rfl⟩
    · obtain ⟨reader, atKey, sameId, sameCode⟩ := consistent.readable found
      split
      · rename_i here
        -- The key changes hands, but only within one implementation.
        have alike := rival?_eq_none_iff.1 free reader (here ▸ atKey)
        simp only [Binding.sameAs, decide_eq_true_eq] at alike
        have sameKey : binding.id = writer.id :=
          (WireId.key_injective (consistent.valid found) valid here).symm
        exact ⟨binding, rfl, sameKey, alike.2.symm.trans sameCode⟩
      · exact ⟨reader, atKey, sameId, sameCode⟩

end Consistent

/-- Whether the reader of a type goes with it. -/
def releases (dispatch : Dispatch) (type : ObjectType) (binding : Binding) : Bool :=
  !((dispatch.writers.erase type).values.any fun other => other.sameAs binding) &&
    (dispatch.readers.get? binding.key).any fun reader => reader.sameAs binding

theorem unregister_of_none (absent : dispatch.writers.get? type = none) :
    dispatch.unregister type = (false, dispatch) := by
  rw [unregister, absent]

theorem unregister_of_writer (found : dispatch.writers.get? type = some binding) :
    dispatch.unregister type = (true,
      { dispatch with
        writers := dispatch.writers.erase type
        readers :=
          if dispatch.releases type binding then dispatch.readers.erase binding.key
          else dispatch.readers }) := by
  rw [unregister, found]
  rfl

theorem isRunning_unregister (dispatch : Dispatch) (type : ObjectType) :
    (dispatch.unregister type).2.isRunning = dispatch.isRunning := by
  cases found : dispatch.writers.get? type with
  | none => rw [unregister_of_none found]
  | some binding => rw [unregister_of_writer found]

theorem writer_erase {other : ObjectType} :
    (dispatch.writers.erase type).get? other = some writer ↔
      other ≠ type ∧ dispatch.writers.get? other = some writer := by
  rw [FiniteMap.get?_erase]
  split <;> simp_all

/-- Taking a type out leaves no reader that was not there. -/
theorem reader_of_unregister {key : FrameKey} {reader : Binding}
    (found : (dispatch.unregister type).2.readers.get? key = some reader) :
    dispatch.readers.get? key = some reader := by
  cases known : dispatch.writers.get? type with
  | none =>
    rw [unregister_of_none known] at found
    exact found
  | some binding =>
    rw [unregister_of_writer known] at found
    dsimp only at found
    split at found
    · rw [FiniteMap.get?_erase] at found
      split at found
      · cases found
      · exact found
    · exact found

namespace Consistent

/-- The reader of a type goes with it unless what still writes is the same binding. -/
theorem releases_iff (consistent : dispatch.Consistent)
    (found : dispatch.writers.get? type = some binding) :
    dispatch.releases type binding = true ↔
      ∀ other writer, other ≠ type → dispatch.writers.get? other = some writer →
        writer.sameAs binding = false := by
  obtain ⟨reader, atKey, sameId, sameCode⟩ := consistent.readable found
  have itsOwn : reader.sameAs binding = true := by simp [Binding.sameAs, sameId, sameCode]
  simp only [releases, atKey, Option.any_some, itsOwn, Bool.and_true, Bool.not_eq_true',
    List.any_eq_false, FiniteMap.mem_values_iff, writer_erase, Bool.not_eq_true]
  constructor
  · intro different other writer apart known
    exact different writer ⟨other, apart, known⟩
  · rintro different writer ⟨other, apart, known⟩
    exact different other writer apart known

theorem unregister (consistent : dispatch.Consistent) (type : ObjectType) :
    (dispatch.unregister type).2.Consistent := by
  cases found : dispatch.writers.get? type with
  | none =>
    rw [unregister_of_none found]
    exact consistent
  | some binding =>
    refine ⟨fun {key reader} atKey => consistent.keyed (reader_of_unregister atKey), ?_⟩
    intro other writer known
    rw [unregister_of_writer found] at known ⊢
    obtain ⟨apart, known⟩ := writer_erase.1 known
    obtain ⟨reader, atKey, same⟩ := consistent.readable known
    refine ⟨reader, ?_, same⟩
    dsimp only
    split
    · rename_i released
      rw [FiniteMap.get?_erase, if_neg, atKey]
      -- A writer with the released key would be the same binding, and keep the reader.
      intro sameKey
      have alike := consistent.same_of_key known found sameKey
      have different := (consistent.releases_iff found).1 released other writer apart known
      simp [Binding.sameAs, alike.1, alike.2] at different
    · exact atKey

end Consistent

/-- Frames of a type with a writer go to its reader, whatever the codec wrote into them. -/
theorem Consistent.decode_encode (consistent : dispatch.Consistent) {object : Object}
    {reader : Binding} (found : dispatch.writers.get? object.type = some writer)
    (atKey : dispatch.readers.get? writer.key = some reader) (cancelled : Bool) :
    ∃ payload, (dispatch.encode cancelled object).written = writer.id.header ++ payload ∧
      ∀ rest, dispatch.decode cancelled ((dispatch.encode cancelled object).written ++ rest) =
        reader.codec.read.run (dispatch.readFrame cancelled (Frame.maxNesting - 1)) 1 cancelled
          (payload ++ rest) := by
  rw [encode_of_writer found]
  refine ⟨_, rfl, fun rest => ?_⟩
  rw [encodeWith, List.append_assoc]
  exact readFrame_header (consistent.valid found) atKey (Frame.maxNesting - 1) _

end Dispatch

end CodecRegistry
