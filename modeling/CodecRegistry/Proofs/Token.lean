import CodecRegistry.Proofs.Extension
import CodecRegistry.Proofs.Lookup
import CodecRegistry.Proofs.Parts
import CodecRegistry.Proofs.Unextended

/-! What the token of a caller decides. It is looked at where a codec is missing, and nowhere else:
of two callers, one cancelled and one not, both are given the same objects, both write the same
octets and both succeed or both fail. Only the name of a failure differs, and on a running registry
only that of a missing writer. -/

namespace CodecRegistry

namespace ReadProgram

variable {α β : Type}

/-- A program that never looks at the caller's token. -/
def Unaware : ReadProgram α → Prop
  | done _ => True
  | fail _ => True
  | scalar _ next => ∀ result, (next result).Unaware
  | object next => ∀ result, (next result).Unaware
  | depth next => ∀ frames, (next frames).Unaware
  | remaining next => ∀ count, (next count).Unaware
  | cancelled _ => False

theorem unaware_ofExcept (result : Except CodingError α) : (ofExcept result).Unaware := by
  cases result <;> trivial

theorem Unaware.bind {program : ReadProgram α} {f : α → ReadProgram β} (first : program.Unaware)
    (later : ∀ value, (f value).Unaware) : (program >>= f).Unaware := by
  show (program.bind f).Unaware
  induction program with
  | done value => exact later value
  | fail error => trivial
  | scalar kind next ih => exact fun result => ih result (first result)
  | object next ih => exact fun result => ih result (first result)
  | depth next ih => exact fun frames => ih frames (first frames)
  | remaining next ih => exact fun count => ih count (first count)
  | cancelled next ih => exact first.elim

theorem inherited_unaware : Inherited fun _ program => program.Unaware where
  done _ := trivial
  fail _ := trivial
  value _ := unaware_ofExcept
  nested := unaware_ofExcept
  bind := Unaware.bind

/-- Such a program does the same for every caller. -/
theorem Unaware.run_eq {program : ReadProgram α} (unaware : program.Unaware)
    (frame : Bytes → Decoding Object) (frames : Nat) (flag other : Bool) (input : Bytes) :
    run frame frames flag program input = run frame frames other program input := by
  induction program generalizing input with
  | done value => rfl
  | fail error => rfl
  | scalar kind next ih => exact ih _ (unaware _) _
  | object next ih => simp only [run, ih _ (unaware _)]
  | depth next ih => exact ih _ (unaware _) _
  | remaining next ih => exact ih _ (unaware _) _
  | cancelled next ih => exact unaware.elim

end ReadProgram

/-- The same writing for a caller that was not cancelled and for one that was. Both wrote the same
and reported the same. Both succeeded, and nothing was missing; or a missing type stopped both. -/
inductive Encoding.Twins (missing : ObjectType → Prop) : Encoding → Encoding → Prop
  | done {written : Bytes} {log : List Event} (complete : ∀ type, ¬ missing type) :
      Twins missing ⟨.ok (), written, log⟩ ⟨.ok (), written, log⟩
  | stopped {type : ObjectType} {written : Bytes} {log : List Event} (lacks : missing type) :
      Twins missing ⟨.error (.noCodec type), written, log⟩
        ⟨.error (.shuttingDown (.object type)), written, log⟩

namespace Encoding

variable {missing other : ObjectType → Prop} {one two : Encoding}

theorem Twins.congr (twins : Twins missing one two) (same : ∀ type, missing type ↔ other type) :
    Twins other one two := by
  cases twins with
  | done complete => exact .done fun type lacks => complete type ((same type).2 lacks)
  | stopped lacks => exact .stopped ((same _).1 lacks)

theorem Twins.behind (twins : Twins missing one two) (front : Bytes) :
    Twins missing { one with written := front ++ one.written }
      { two with written := front ++ two.written } := by
  cases twins with
  | done complete => exact .done complete
  | stopped lacks => exact .stopped lacks

/-- What was missing in either case. -/
theorem Twins.spelled (twins : Twins missing one two) :
    two.written = one.written ∧ two.log = one.log ∧
      ((∀ type, ¬ missing type) ∧ one.result = .ok () ∧ two.result = .ok () ∨
        ∃ type, missing type ∧ one.result = .error (.noCodec type) ∧
          two.result = .error (.shuttingDown (.object type))) := by
  cases twins with
  | done complete => exact ⟨rfl, rfl, .inl ⟨complete, rfl, rfl⟩⟩
  | stopped lacks => exact ⟨rfl, rfl, .inr ⟨_, lacks, rfl, rfl⟩⟩

end Encoding

/-- Twins inside make twins outside: the first object that stops one run stops the other one. -/
theorem WriteProgram.Nests.twins {bound : Nat} {program : WriteProgram bound} {parts : List Object}
    (nests : program.Nests parts) {missing : ObjectType → Object → Prop}
    {frame other : (value : Object) → value.span < bound → Encoding}
    (inside : ∀ value ∈ parts, ∀ deeper,
      Encoding.Twins (fun type => missing type value) (frame value deeper) (other value deeper)) :
    Encoding.Twins (fun type => ∃ value ∈ parts, missing type value) (program.run frame false)
      (program.run other true) := by
  induction nests with
  | done => exact .done fun type => by simp
  | emit later ih => exact (ih inside).behind _
  | @nest value deeper next parts later ih =>
    have first := inside value List.mem_cons_self deeper
    simp only [WriteProgram.nest, run]
    generalize frame value deeper = one at first
    generalize other value deeper = two at first
    cases first with
    | stopped lacks => exact .stopped ⟨value, List.mem_cons_self, lacks⟩
    | done complete =>
      have rest := ih fun value mem => inside value (List.mem_cons_of_mem _ mem)
      simp only
      generalize next.run frame false = one at rest
      generalize next.run other true = two at rest
      cases rest with
      | stopped lacks =>
        obtain ⟨value, mem, lacks⟩ := lacks
        exact .stopped ⟨value, List.mem_cons_of_mem _ mem, lacks⟩
      | done others =>
        refine .done fun type => ?_
        simpa [complete type] using others type

namespace Dispatch

variable {dispatch : Dispatch} {services : Services} {object : Object} {type : ObjectType}

/-- Writing an object comes to an object of this type, itself or one inside at any depth, and no
codec writes that. -/
inductive Lacks (dispatch : Dispatch) (type : ObjectType) : Object → Prop
  | itself {object : Object} (same : object.type = type)
      (missing : dispatch.writers.get? type = none) : Lacks dispatch type object
  | inside {object value : Object} {writer : Binding}
      (found : dispatch.writers.get? object.type = some writer) (part : value ∈ object.parts)
      (lacks : Lacks dispatch type value) : Lacks dispatch type object

theorem lacks_iff_of_some {writer : Binding}
    (found : dispatch.writers.get? object.type = some writer) :
    dispatch.Lacks type object ↔ ∃ value ∈ object.parts, dispatch.Lacks type value := by
  refine ⟨fun lacks => ?_, fun ⟨value, part, lacks⟩ => .inside found part lacks⟩
  cases lacks with
  | itself same missing => simp [same, missing] at found
  | inside _ part lacks => exact ⟨_, part, lacks⟩

/-- Readers that do not look at the token are found and missed alike while a registry runs. -/
theorem readFrame_unaware (running : dispatch.isRunning = true)
    (unaware : ∀ {key reader}, dispatch.readers.get? key = some reader →
      reader.codec.read.Unaware) (levels : Nat) :
    dispatch.readFrame true levels = dispatch.readFrame false levels := by
  induction levels with
  | zero => rfl
  | succ levels ih =>
    funext input
    unfold readFrame
    split
    · rfl
    · split
      · simp only [readerMiss, running, if_true]
      · rename_i reader found
        rw [ih]
        exact (unaware found).run_eq ..

/-- Writers that nest the parts of an object and do nothing else stop at the same missing type. -/
theorem twins_encode
    (nests : ∀ {type writer}, dispatch.writers.get? type = some writer → ∀ object : Object,
      object.type = type → (writer.codec.write object).Nests object.parts) (object : Object) :
    Encoding.Twins (fun type => dispatch.Lacks type object) (dispatch.encode false object)
      (dispatch.encode true object) := by
  cases found : dispatch.writers.get? object.type with
  | none =>
    unfold encode
    simp only [found]
    exact .stopped (.itself rfl found)
  | some writer =>
    rw [encode_of_writer found, encode_of_writer found]
    have inside := (nests found object rfl).twins fun value part deeper => twins_encode nests value
    exact (inside.behind _).congr fun type => (lacks_iff_of_some found).symm
termination_by object.span

end Dispatch

namespace Registry

open Dispatch

/-- The token on a running registry of built-in codecs, whichever of their types were taken out. It
has no part in reading. Writing an object comes to the same octets either way, and succeeds either
way unless some type inside the object has no writer: that type is what an uncancelled caller is
told of, and what a cancelled one is told could not be resolved any more. -/
theorem token_names_misses (operations : List Operation) {services : Services}
    (only : (after operations).dispatch.OnlyBuiltIn services)
    (writers : ∀ type writer, (after operations).dispatch.writers.get? type = some writer →
      writer ∈ Binding.builtIn services) :
    let dispatch := (after operations).dispatch
    (∀ input, dispatch.decode true input = dispatch.decode false input) ∧
    ∀ object,
      (dispatch.encode true object).written = (dispatch.encode false object).written ∧
      (dispatch.encode true object).log = (dispatch.encode false object).log ∧
      ((∀ type, ¬ dispatch.Lacks type object) ∧
          (dispatch.encode false object).result = .ok () ∧
          (dispatch.encode true object).result = .ok () ∨
        ∃ type, dispatch.Lacks type object ∧
          (dispatch.encode false object).result = .error (.noCodec type) ∧
          (dispatch.encode true object).result = .error (.shuttingDown (.object type))) := by
  intro dispatch
  refine ⟨fun input => ?_, fun object => ?_⟩
  · have same := readFrame_unaware only.running (fun found =>
      Binding.inherits_builtIn ReadProgram.inherited_unaware services _ (only.reader found))
      Frame.maxNesting
    exact congrFun same input
  · refine (twins_encode (fun {type writer} found object same => ?_) object).spelled
    have place := writers type writer found
    have handled := ((loadedFor_after operations).writer found).mem_types place
    exact Binding.nests_builtIn services writer place object (same ▸ handled)

/-- Without the codec of keys, a key inside a response is an unknown frame, and an entry inside one
is written up to its key. -/
theorem token_names_misses_unkeyed :
    let dispatch := (after [.start .bare .standard, .unregister .key]).dispatch
    let object : Object := .success (.immortalEntry [1] [2])
    dispatch.decode true [13, 1, 40, 0] = dispatch.decode false [13, 1, 40, 0] ∧
    (dispatch.decode true [13, 1, 40, 0]).Fails (.unknownFrame (.internal 40)) [0] ∧
    (dispatch.decode false [13, 1, 40, 0]).Fails (.unknownFrame (.internal 40)) [0] ∧
    dispatch.Lacks .key object ∧
    (dispatch.encode false object).written = [13, 1, 20] ∧
    (dispatch.encode true object).written = [13, 1, 20] ∧
    (dispatch.encode false object).result = .error (.noCodec .key) ∧
    (dispatch.encode true object).result = .error (.shuttingDown (.object .key)) := by
  intro dispatch object
  obtain ⟨started, before, runs, written, refused⟩ :
      (empty.start .bare .standard).answer = .ok () ∧
      (empty.start .bare .standard).registry.isRunning = true ∧ dispatch.isRunning = true ∧
      (dispatch.encode false object).written = [13, 1, 20] ∧
      (dispatch.encode false object).result = .error (.noCodec .key) := by decide +kernel
  have running : ∀ front, front <+: [Operation.unregister .key] →
      (front.foldl perform (empty.start .bare .standard).registry).isRunning = true :=
    running_cons_iff.2 ⟨before, running_nil_iff.2 runs⟩
  have only : dispatch.OnlyBuiltIn .bare := onlyBuiltIn_of_running started _ running rfl rfl
  have loaded := (loadedFrom_of_running started _ running).2
  obtain ⟨reads, writes⟩ := token_names_misses [.start .bare .standard, .unregister .key] only
    fun type writer found => (loaded.writer found).mem_builtIn rfl rfl
  obtain ⟨same, -, ⟨-, done, -⟩ | ⟨type, lacks, missed, interrupted⟩⟩ := writes object
  · cases refused.symm.trans done
  · cases refused.symm.trans missed
    have alike := reads [13, 1, 40, 0]
    have unknown :
        (dispatch.decode false [13, 1, 40, 0]).Fails (.unknownFrame (.internal 40)) [0] :=
      ⟨rfl, rfl⟩
    refine ⟨alike, ?_, unknown, lacks, written, same.trans written, refused, interrupted⟩
    rw [alike]
    exact unknown

/-- A stopped registry, however it came to be stopped. What its reader is asked for fails as a
matter of its life; what its writer is asked for does so only for a caller that was cancelled. -/
theorem stopped_misses (operations : List Operation)
    (stopped : (after operations).isRunning = false) (cancelled : Bool) :
    let dispatch := (after operations).dispatch
    (∀ input key payload, Frame.Header input key payload → ∃ error,
      (dispatch.decode cancelled input).Fails error payload ∧
      error = (if cancelled then .shuttingDown (.frame key) else .notRunning key) ∧
      error.category = if cancelled then .cancelled else .retryable) ∧
    ∀ object, ∃ error,
      dispatch.encode cancelled object = ⟨.error error, [], [.noWriter object.type]⟩ ∧
      error = (if cancelled then .shuttingDown (.object object.type) else .noCodec object.type) ∧
      error.category = if cancelled then .cancelled else .nonRetryable := by
  intro dispatch
  have empty : dispatch = .empty := (sound_after operations).stopped stopped
  rw [empty]
  refine ⟨fun input key payload header => ?_, fun object => ?_⟩
  · have fails : (Dispatch.empty.decode cancelled input).Fails _ payload :=
      fails_of_miss header rfl _
    refine ⟨_, fails, rfl, ?_⟩
    cases cancelled <;> rfl
  · refine ⟨writerMiss object.type cancelled, ?_, rfl, ?_⟩
    · unfold encode
      rfl
    · cases cancelled <;> rfl

/-- Bytes and an object for a registry that was stopped. -/
theorem stopped_misses_after_stop :
    let registry := after [.start .bare .standard, .stop]
    registry.isRunning = false ∧
    (registry.dispatch.decode false [40, 0]).Fails (.notRunning (.internal 40)) [0] ∧
    registry.dispatch.encode true (.key []) =
      ⟨.error (.shuttingDown (.object .key)), [], [.noWriter .key]⟩ := by
  intro registry
  have stopped : registry.isRunning = false := by decide +kernel
  obtain ⟨reads, -⟩ := stopped_misses _ stopped false
  obtain ⟨-, writes⟩ := stopped_misses _ stopped true
  obtain ⟨error, fails, rfl, -⟩ := reads [40, 0] _ [0] (.internal (by decide))
  obtain ⟨cause, written, rfl, -⟩ := writes (.key [])
  exact ⟨stopped, fails, written⟩

/-- One stopped registry and one caller that was not cancelled, but two classes of failure: the
reader asks to try again later, the writer puts the blame on the caller. -/
theorem stopped_blames_caller :
    let dispatch := (after [.start .bare .standard, .stop]).dispatch
    dispatch.isRunning = false ∧
    ∃ missed refused, (dispatch.decode false [40, 0]).result = .error missed ∧
      missed.category = .retryable ∧
      (dispatch.encode false (.key [])).result = .error refused ∧
      refused.category = .nonRetryable := by
  intro dispatch
  have stopped : dispatch.isRunning = false := by decide +kernel
  have empty : dispatch = .empty := (sound_after _).stopped stopped
  have refused : (dispatch.encode false (.key [])).result = .error (.noCodec .key) := by
    decide +kernel
  refine ⟨stopped, .notRunning (.internal 40), .noCodec .key, ?_, rfl, refused, rfl⟩
  rw [empty]
  rfl

end Registry

end CodecRegistry
