import CodecRegistry.Proofs.Hops
import CodecRegistry.Proofs.Parts
import CodecRegistry.Proofs.Refusal

/-! What a failed write leaves behind. Where built-in codecs write, an object fails at one of its
parts, and the octets end where the frame of that part belongs. So the frames that were begun lie
one inside the other, and a reader that follows them finds nothing in the innermost one, unless
they are more than it opens. The induction is along the path to the part without a writer. -/

namespace CodecRegistry

open Codec

/-- A program fails only where one of the objects that it nests does. -/
theorem WriteProgram.Nests.fails {bound : Nat} {program : WriteProgram bound} {parts : List Object}
    (nests : program.Nests parts) {frame : (value : Object) → value.span < bound → Encoding}
    {flag : Bool} {error : CodingError} (failed : (program.run frame flag).result = .error error) :
    ∃ value ∈ parts, ∃ deeper cause, (frame value deeper).result = .error cause := by
  induction nests with
  | done => cases failed
  | emit later ih => exact ih failed
  | @nest value deeper next parts later ih =>
    cases first : (frame value deeper).result with
    | error cause => exact ⟨value, List.mem_cons_self, deeper, cause, first⟩
    | ok _ =>
      simp only [WriteProgram.nest, WriteProgram.run, first] at failed
      obtain ⟨part, mem, deeper, cause, missed⟩ := ih failed
      exact ⟨part, List.mem_cons_of_mem _ mem, deeper, cause, missed⟩

namespace Dispatch

variable {dispatch : Dispatch} {services : Services} {cancelled : Bool} {object value : Object}
  {writer : Binding} {error : CodingError} {input : Bytes} {count : Nat}

/-- Nothing is written behind an object that failed. -/
theorem emit_nest_failed {bound : Nat} {deeper : value.span < bound} {next : WriteProgram bound}
    (failed : (dispatch.encode cancelled value).result = .error error) :
    dispatch.emit cancelled (.nest value deeper next) = dispatch.encode cancelled value := by
  simp only [emit, WriteProgram.nest, WriteProgram.run, failed, List.append_nil]
  rw [← failed]

/-- So many frames begin, one inside the other, and the octets end where the next one belongs. -/
inductive BreaksOff (dispatch : Dispatch) : Nat → Bytes → Prop
  | ended : BreaksOff dispatch 0 []
  | inside {count : Nat} {input inner : Bytes} {needed : Option ObjectType}
      (nests : dispatch.Nests input inner needed) (breaks : BreaksOff dispatch count inner) :
      BreaksOff dispatch (count + 1) input

/-- With levels left for all these frames and one more, that one is missing; with fewer, the reader
stops before it comes to their end. -/
theorem BreaksOff.readFrame (breaks : dispatch.BreaksOff count input) (cancelled : Bool)
    (levels : Nat) : (dispatch.readFrame cancelled levels input).result =
      .error (if levels ≤ count then .nestingTooDeep Frame.maxNesting else .truncated 1 0) := by
  induction breaks generalizing levels with
  | ended => cases levels <;> rfl
  | inside nests breaks ih =>
    cases levels with
    | zero => rfl
    | succ levels =>
      have refused := nests.readFrame (.inl (ih levels))
      simpa only [Nat.add_le_add_iff_right] using refused

/-- Built-in codecs write the types that they handle, and each reads what it wrote. -/
def ReadsOwn (dispatch : Dispatch) (services : Services) : Prop :=
  ∀ {type writer}, dispatch.writers.get? type = some writer →
    writer ∈ Binding.builtIn services ∧ type ∈ writer.types ∧
      dispatch.readers.get? writer.key = some writer

/-- What a writer wrote is opened as its own. -/
theorem ReadsOwn.opens (own : dispatch.ReadsOwn services)
    (found : dispatch.writers.get? object.type = some writer) {payload : Bytes}
    (written : (dispatch.emit cancelled (writer.codec.write object)).written = payload) :
    dispatch.Opens writer (dispatch.encode cancelled object).written payload := by
  obtain ⟨place, -, atKey⟩ := own found
  have header := Frame.readKey_header (Binding.builtIn_valid services writer place).1 payload
  rw [encode_of_writer found, encodeWith, written]
  exact ⟨writer.key, header, atKey⟩

/-- Only one codec can be the writer of an object that a built-in codec handles. -/
theorem ReadsOwn.writer_eq (own : dispatch.ReadsOwn services)
    (found : dispatch.writers.get? object.type = some writer) (binding : Binding)
    (place : binding ∈ Binding.builtIn services) (handled : object.type ∈ binding.types) :
    writer = binding := by
  obtain ⟨written, listed, -⟩ := own found
  exact Binding.builtIn_unique services written place listed handled

/-- When a part fails, the frame around it ends where the part's own frame belongs. -/
theorem ReadsOwn.nests (own : dispatch.ReadsOwn services)
    (found : dispatch.writers.get? object.type = some writer) (part : value ∈ object.parts)
    (failed : (dispatch.encode cancelled value).result = .error error) :
    ∃ needed, dispatch.Nests (dispatch.encode cancelled object).written
      (dispatch.encode cancelled value).written needed := by
  cases object with
  | success inner =>
    obtain rfl := List.mem_singleton.1 part
    obtain rfl := own.writer_eq found ⟨.internal Successes.id, Successes.codec⟩
      (by simp [Binding.builtIn]) (.head _)
    have payload : (dispatch.emit cancelled (Successes.write (.success value))).written =
        ScalarKind.bool.encode true ++ (dispatch.encode cancelled value).written :=
      congrArg (_ ++ ·.written) (emit_nest_failed failed)
    exact ⟨none, .carried (own.opens found payload) rfl
      (ScalarKind.decode_encode .bool trivial _)⟩
  | transaction number owner remote =>
    cases owner with
    | none => cases part
    | some name =>
      obtain rfl := List.mem_singleton.1 part
      obtain rfl := own.writer_eq found ⟨.internal Transactions.id, Transactions.codec⟩
        (by simp [Binding.builtIn]) (.head _)
      have payload : (dispatch.emit cancelled
          (Transactions.write (.transaction number (some name) remote))).written =
          ScalarKind.varint64.encode number ++ (ScalarKind.bool.encode true ++
            (dispatch.encode cancelled (.address name)).written) := by
        rw [← List.append_assoc]
        exact congrArg (_ ++ ·.written) (emit_nest_failed failed)
      exact ⟨some .address, .owner (own.opens found payload) rfl
        (ScalarKind.decode_encode .varint64 trivial _)
        (ScalarKind.decode_encode .bool trivial _)⟩
  | immortalEntry data stored =>
    obtain rfl := List.mem_singleton.1 part
    obtain rfl := own.writer_eq found ⟨.internal ImmortalEntries.id, ImmortalEntries.codec⟩
      (by simp [Binding.builtIn]) (.head _)
    refine ⟨some .key, .key (own.opens found ?_) (.inl rfl)⟩
    exact congrArg Encoding.written (emit_nest_failed failed)
  | mortalEntry entry =>
    obtain rfl := List.mem_singleton.1 part
    obtain rfl := own.writer_eq found ⟨.internal MortalEntries.id, MortalEntries.codec⟩
      (by simp [Binding.builtIn]) (.head _)
    refine ⟨some .key, .key (own.opens found ?_) (.inr rfl)⟩
    exact congrArg Encoding.written (emit_nest_failed failed)
  | record typeName fields =>
    obtain ⟨place, handled, -⟩ := own found
    exact absurd handled (Binding.application_not_mem_types services typeName writer place)
  | _ => cases part

/-- So a failed object leaves frames behind that break off, one for each object around the part that
has no writer. -/
theorem ReadsOwn.breaksOff (own : dispatch.ReadsOwn services) (object : Object)
    {error : CodingError} (failed : (dispatch.encode cancelled object).result = .error error) :
    ∃ count, dispatch.BreaksOff count (dispatch.encode cancelled object).written := by
  cases found : dispatch.writers.get? object.type with
  | none =>
    refine ⟨0, ?_⟩
    unfold encode
    simp only [found]
    exact .ended
  | some writer =>
    obtain ⟨place, handled, -⟩ := own found
    have program := Binding.nests_builtIn services writer place object handled
    rw [encode_of_writer found] at failed
    obtain ⟨value, part, deeper, cause, missed⟩ := program.fails failed
    obtain ⟨needed, nests⟩ := own.nests found part missed
    obtain ⟨count, breaks⟩ := own.breaksOff value missed
    exact ⟨count + 1, .inside nests breaks⟩
termination_by object.span

/-- Nothing at all is written only where the object itself has no writer. -/
theorem written_eq_nil_iff : (dispatch.encode cancelled object).written = [] ↔
    dispatch.writers.get? object.type = none := by
  cases found : dispatch.writers.get? object.type with
  | none =>
    unfold encode
    simp [found]
  | some writer =>
    rw [encode_of_writer found, encodeWith]
    cases writer.id <;> simp [WireId.header]

/-- Octets that break off do so at one depth. -/
theorem BreaksOff.unique (breaks : dispatch.BreaksOff count input) {other : Nat}
    (same : dispatch.BreaksOff other input) : other = count := by
  have depth {a b : Nat} (ha : dispatch.BreaksOff a input) (hb : dispatch.BreaksOff b input) :
      b ≤ a := by
    by_contra further
    have deeper : a + 1 ≤ b := Nat.not_le.1 further
    have ends := ha.readFrame true (a + 1)
    rw [hb.readFrame, if_neg (Nat.not_succ_le_self a), if_pos deeper] at ends
    cases ends
  exact le_antisymm (depth breaks same) (depth same breaks)

/-- Each response around an object that fails is one more frame that is begun. -/
theorem ReadsOwn.breaksOff_responses (own : dispatch.ReadsOwn services)
    (found : dispatch.writers.get? .success = some writer)
    (failed : (dispatch.encode cancelled value).result = .error error)
    (breaks : dispatch.BreaksOff count (dispatch.encode cancelled value).written) (depth : Nat) :
    (dispatch.encode cancelled (.responses depth (some value))).result = .error error ∧
      dispatch.BreaksOff (count + depth)
        (dispatch.encode cancelled (.responses depth (some value))).written := by
  induction depth with
  | zero => exact ⟨failed, breaks⟩
  | succ depth ih =>
    obtain ⟨failed, breaks⟩ := ih
    rw [Object.responses_succ]
    generalize Object.responses depth (some value) = inner at failed breaks
    have found : dispatch.writers.get? (Object.success inner).type = some writer := found
    obtain ⟨needed, nests⟩ := own.nests found (.head _) failed
    refine ⟨?_, .inside nests breaks⟩
    obtain rfl := own.writer_eq found ⟨.internal Successes.id, Successes.codec⟩
      (by simp [Binding.builtIn]) (.head _)
    rw [encode_of_writer found]
    show (dispatch.emit cancelled (.emit (ScalarKind.bool.encode true)
      (.nest inner (Object.span_lt_success inner) .done))).result = _
    rw [emit_octets, emit_nest_failed failed]
    exact failed

end Dispatch

namespace Registry

open Dispatch

/-- Where only built-in codecs are left, each reads what it wrote, whichever types were taken
out. -/
theorem readsOwn_after (operations : List Operation) {services : Services}
    (only : (after operations).dispatch.OnlyBuiltIn services)
    (writers : ∀ type writer, (after operations).dispatch.writers.get? type = some writer →
      writer ∈ Binding.builtIn services) : (after operations).dispatch.ReadsOwn services := by
  intro type writer found
  have place := writers type writer found
  have handled := ((loadedFor_after operations).writer found).mem_types place
  obtain ⟨reader, atKey, sameId, -⟩ := (sound_after operations).consistent.readable found
  have key : reader.key = writer.key := congrArg WireId.key sameId
  obtain rfl := Binding.builtIn_unique_key services (only.reader atKey) place key
  exact ⟨place, handled, atKey⟩

/-- A failed write on a running registry of built-in codecs, whichever of their types were taken
out and whatever the object holds. The octets are none only where the object itself has no writer.
They begin some number of frames, one inside the other, and are never read: with the reader's limit
below that number the nesting is refused, and otherwise one byte is missing. -/
theorem failed_write_breaks_off (operations : List Operation) {services : Services}
    (only : (after operations).dispatch.OnlyBuiltIn services)
    (writers : ∀ type writer, (after operations).dispatch.writers.get? type = some writer →
      writer ∈ Binding.builtIn services) (cancelled : Bool) (object : Object) {error : CodingError}
    (failed : ((after operations).dispatch.encode cancelled object).result = .error error) :
    let dispatch := (after operations).dispatch
    let written := (dispatch.encode cancelled object).written
    (written = [] ↔ dispatch.writers.get? object.type = none) ∧
    (∃! count, dispatch.BreaksOff count written) ∧
    ∀ count, dispatch.BreaksOff count written → ∀ later,
      (dispatch.decode later written).result =
        .error (if Frame.maxNesting ≤ count then .nestingTooDeep Frame.maxNesting
          else .truncated 1 0) := by
  intro dispatch written
  have own : dispatch.ReadsOwn services := readsOwn_after operations only writers
  obtain ⟨count, breaks⟩ := own.breaksOff object failed
  refine ⟨written_eq_nil_iff, ⟨count, breaks, fun other same => breaks.unique same⟩, ?_⟩
  intro count breaks later
  exact breaks.readFrame later Frame.maxNesting

/-- Without the codec of keys, an entry ends before its key. With one response around it the reader
finds that out; with 127 it stops before. -/
theorem failed_write_breaks_off_unkeyed :
    let dispatch := (after [.start .bare .standard, .unregister .key]).dispatch
    let object (depth : Nat) : Object := .responses depth (some (.immortalEntry [1] [2]))
    (dispatch.encode false (object 1)).written = [13, 1, 20] ∧
    (dispatch.decode true [13, 1, 20]).result = .error (.truncated 1 0) ∧
    dispatch.BreaksOff 128 (dispatch.encode false (object 127)).written ∧
    (dispatch.decode true (dispatch.encode false (object 127)).written).result =
      .error (.nestingTooDeep 128) := by
  intro dispatch object
  obtain ⟨started, before, runs, unkeyed, success, entry⟩ :
      (empty.start .bare .standard).answer = .ok () ∧
      (empty.start .bare .standard).registry.isRunning = true ∧ dispatch.isRunning = true ∧
      dispatch.writers.get? .key = none ∧ (dispatch.writers.get? .success).isSome ∧
      (dispatch.writers.get? .immortalEntry).isSome := by decide +kernel
  obtain ⟨written, key, failed⟩ : (dispatch.encode false (object 1)).written = [13, 1, 20] ∧
      (dispatch.encode false (.key [1])).result = .error (.noCodec .key) ∧
      (dispatch.encode false (object 0)).result = .error (.noCodec .key) := by decide +kernel
  have running : ∀ front, front <+: [Operation.unregister .key] →
      (front.foldl perform (empty.start .bare .standard).registry).isRunning = true :=
    running_cons_iff.2 ⟨before, running_nil_iff.2 runs⟩
  have only : dispatch.OnlyBuiltIn .bare := onlyBuiltIn_of_running started _ running rfl rfl
  have loaded := (loadedFrom_of_running started _ running).2
  have writers (type writer) (found : dispatch.writers.get? type = some writer) :
      writer ∈ Binding.builtIn .bare := (loaded.writer found).mem_builtIn rfl rfl
  let operations : List Operation := [.start .bare .standard, .unregister .key]
  have own : dispatch.ReadsOwn .bare := readsOwn_after operations only writers
  -- The entry stops at its key, which leaves nothing behind.
  have broken : dispatch.BreaksOff 1 (dispatch.encode false (object 0)).written := by
    obtain ⟨writer, found⟩ := Option.isSome_iff_exists.1 entry
    have found : dispatch.writers.get? (object 0).type = some writer := found
    have nothing : (dispatch.encode false (.key [1])).written = [] := written_eq_nil_iff.2 unkeyed
    obtain ⟨needed, nests⟩ := own.nests found (.head _) key
    refine .inside nests ?_
    rw [nothing]
    exact .ended
  obtain ⟨writer, found⟩ := Option.isSome_iff_exists.1 success
  have wrapped := own.breaksOff_responses found failed broken
  have ends (depth : Nat) := (failed_write_breaks_off operations only writers false _
    (wrapped depth).1).2.2 _ (wrapped depth).2 true
  rw [← written]
  exact ⟨rfl, ends 1, (wrapped 127).2, ends 127⟩

end Registry

end CodecRegistry
