import CodecRegistry.Proofs.Outcome
import CodecRegistry.Proofs.Primitive
import CodecRegistry.Proofs.Unextended

/-! Whom a refused frame is blamed on. Where only built-in codecs read, the peer is to blame for
all that is refused, with one exception: a frame that is in order but holds an object of another
type than the frame around it needs there is refused as if the caller had passed that object. -/

namespace CodecRegistry

open Codec ReadProgram

theorem Reading.inherited_protocolViolation : Inherited fun _ read => ∀ input error,
    (read input).result = .error error → error.category = .protocolViolation where
  varint width := by
    suffices from_any : ∀ soFar input error,
        (Varint.decodeFrom width soFar input).result = .error error →
          error.category = .protocolViolation from from_any ⟨0, 0⟩
    intro soFar input error failed
    induction input generalizing soFar with
    | nil =>
      cases failed
      rfl
    | cons byte rest ih =>
      simp only [Varint.decodeFrom] at failed
      split at failed
      · exact ih _ failed
      · cases failed
      · cases failed
        rfl
  take count input error failed := by
    unfold take at failed
    split at failed <;> cases failed
    rfl
  accept value input error failed := by cases failed
  refuse cause input error failed := by
    cases failed
    rfl
  andThen {α β read next} first later input error failed := by
    have before := first input
    dsimp only at failed
    generalize read input = reading at before failed
    obtain ⟨result, rest⟩ := reading
    cases result with
    | ok value => exact later value rest error failed
    | error cause =>
      obtain rfl : cause = error := Except.error.inj failed
      exact before cause rfl

namespace ReadProgram

variable {α β : Type}

/-- Whatever a program refuses, the peer is to blame for it. -/
def BlamesPeer (program : ReadProgram α) : Prop :=
  ∀ frame frames flag input error, (program.run frame frames flag input).result = .error error →
    error.category = .protocolViolation

theorem blamesPeer_pure (value : α) : (pure value : ReadProgram α).BlamesPeer := by
  intro frame frames flag input error failed
  cases failed

theorem blamesPeer_value (kind : ScalarKind) : (value kind).BlamesPeer := by
  intro frame frames flag input error failed
  rw [fails_value_iff kind] at failed
  exact Reading.inherited_protocolViolation.decode kind input error failed

theorem blamesPeer_malformed (cause : Malformation) :
    (fail (.malformed cause) : ReadProgram α).BlamesPeer := by
  intro frame frames flag input error failed
  cases failed
  rfl

theorem BlamesPeer.bind {program : ReadProgram α} {f : α → ReadProgram β}
    (first : program.BlamesPeer) (later : ∀ value, (f value).BlamesPeer) :
    (program >>= f).BlamesPeer := by
  intro frame frames flag input error failed
  rcases fails_bind_iff.1 failed with failed | ⟨value, middle, -, failed⟩
  · exact first frame frames flag input error failed
  · exact later value frame frames flag middle error failed

end ReadProgram

namespace Codec

open ReadProgram

theorem Maps.blamesPeer_readEntries (count : Nat) (before : List (String × Bytes)) :
    (readEntries count before).BlamesPeer := by
  induction count generalizing before with
  | zero => exact blamesPeer_pure _
  | succ count ih =>
    exact (blamesPeer_value _).bind fun _ => (blamesPeer_value _).bind fun _ => ih _

theorem Maps.blamesPeer_read : read.BlamesPeer := by
  refine (blamesPeer_value _).bind fun kind => (blamesPeer_value _).bind fun _ =>
    (blamesPeer_readEntries _ _).bind fun _ => ?_
  split
  · exact blamesPeer_pure _
  · split
    · exact blamesPeer_pure _
    · exact blamesPeer_malformed _

theorem Commands.blamesPeer_readParameters (count : Nat) (before : List Bytes) :
    (readParameters count before).BlamesPeer := by
  induction count generalizing before with
  | zero => exact blamesPeer_pure _
  | succ count ih => exact (blamesPeer_value _).bind fun _ => ih _

theorem Commands.blamesPeer_read {factory : CommandFactory}
    (accepts : ∀ id parameters, ∃ command, factory id parameters = .ok command) :
    (read factory).BlamesPeer := by
  refine (blamesPeer_value _).bind fun id => (blamesPeer_value _).bind fun _ =>
    (blamesPeer_readParameters _ _).bind fun parameters => ?_
  obtain ⟨command, accepted⟩ := accepts id parameters
  rw [accepted]
  exact blamesPeer_pure _

theorem Addresses.blamesPeer_read : read.BlamesPeer :=
  (blamesPeer_value _).bind fun _ => blamesPeer_pure _

theorem Keys.blamesPeer_read : read.BlamesPeer :=
  (blamesPeer_value _).bind fun _ => blamesPeer_pure _

theorem Packed.blamesPeer_read (marshaller : Marshaller) : (read marshaller).BlamesPeer :=
  (blamesPeer_value _).bind fun _ => (blamesPeer_value _).bind fun _ => blamesPeer_pure _

end Codec

/-! ## Frames inside frames -/

/-- A nested frame does not give what is needed in its place: it fails, or it holds an object of
another type than the one that is needed, if it matters. -/
def Decoding.Denies (inner : Decoding Object) (needed : Option ObjectType) (error : CodingError) :
    Prop :=
  inner.result = .error error ∨
    ∃ wanted ∈ needed, ∃ found rest, inner.Gives found rest ∧ found.type ≠ wanted ∧
      error = .wrongType wanted.name

namespace Codec

variable {frame : Bytes → Decoding Object} {frames : Nat} {flag : Bool} {input : Bytes}
  {error : CodingError}

theorem Addresses.fails_readNested_iff :
    (readNested.run frame frames flag input).result = .error error ↔
      (frame input).Denies (some .address) error := by
  simp [readNested_eq, Decoding.Denies, fails_nameOf_iff]

theorem Keys.fails_readNested_iff :
    (readNested.run frame frames flag input).result = .error error ↔
      (frame input).Denies (some .key) error := by
  simp [readNested_eq, Decoding.Denies, fails_dataOf_iff]

theorem Transactions.fails_read_iff :
    (read.run frame frames flag input).result = .error error ↔
      (ScalarKind.varint64.decode input).result = .error error ∨
      ∃ number marked, ScalarKind.varint64.decode input = ⟨.ok number, marked⟩ ∧
        ((ScalarKind.bool.decode marked).result = .error error ∨
        ∃ inner, ScalarKind.bool.decode marked = ⟨.ok true, inner⟩ ∧
          (frame inner).Denies (some .address) error) := by
  simp [read, Addresses.fails_readNested_iff, gives_value_iff .varint64, gives_value_iff .bool,
    fails_value_iff .varint64, fails_value_iff .bool]

theorem Successes.fails_read_iff :
    (read.run frame frames flag input).result = .error error ↔
      (ScalarKind.bool.decode input).result = .error error ∨
      ∃ inner, ScalarKind.bool.decode input = ⟨.ok true, inner⟩ ∧
        (frame inner).Denies none error := by
  simp [read, Decoding.Denies, gives_value_iff .bool, fails_value_iff .bool]

/-- Where only the peer is to blame for what stands behind a key, the key is all that can be
denied. -/
theorem Keys.fails_readNested_bind {entry : Bytes → ReadProgram Object}
    (behind : ∀ key, (entry key).BlamesPeer)
    (failed : ((readNested >>= entry).run frame frames flag input).result = .error error) :
    error.category = .protocolViolation ∨ (frame input).Denies (some .key) error := by
  rcases fails_bind_iff.1 failed with failed | ⟨key, rest, -, failed⟩
  · exact .inr (fails_readNested_iff.1 failed)
  · exact .inl (behind key _ _ _ _ _ failed)

theorem ImmortalEntries.fails_read
    (failed : (read.run frame frames flag input).result = .error error) :
    error.category = .protocolViolation ∨ (frame input).Denies (some .key) error :=
  Keys.fails_readNested_bind (fun _ => (blamesPeer_value _).bind fun _ => blamesPeer_pure _) failed

theorem MortalEntries.fails_read
    (failed : (read.run frame frames flag input).result = .error error) :
    error.category = .protocolViolation ∨ (frame input).Denies (some .key) error := by
  refine Keys.fails_readNested_bind (fun key => ?_) failed
  exact (blamesPeer_value _).bind fun _ => (blamesPeer_value _).bind fun _ =>
    (blamesPeer_value _).bind fun _ => blamesPeer_pure _

end Codec

namespace Dispatch

variable {dispatch : Dispatch} {services : Services} {cancelled : Bool} {levels : Nat}
  {input inner : Bytes} {needed : Option ObjectType} {wanted : ObjectType} {error : CodingError}

/-- The frame at the front of the first input has another one inside, at the front of the second
input. A transaction needs its owner's address there and an entry its key; a response takes
whatever it is. -/
inductive Nests (dispatch : Dispatch) : Bytes → Bytes → Option ObjectType → Prop
  | owner {reader : Binding} {input payload marked inner : Bytes} {number : UInt64}
      (opens : dispatch.Opens reader input payload) (codec : reader.codec = Transactions.codec)
      (numbered : ScalarKind.varint64.decode payload = ⟨.ok number, marked⟩)
      (owned : ScalarKind.bool.decode marked = ⟨.ok true, inner⟩) :
      Nests dispatch input inner (some .address)
  | carried {reader : Binding} {input payload inner : Bytes}
      (opens : dispatch.Opens reader input payload) (codec : reader.codec = Successes.codec)
      (carrying : ScalarKind.bool.decode payload = ⟨.ok true, inner⟩) :
      Nests dispatch input inner none
  | key {reader : Binding} {input inner : Bytes} (opens : dispatch.Opens reader input inner)
      (codec : reader.codec = ImmortalEntries.codec ∨ reader.codec = MortalEntries.codec) :
      Nests dispatch input inner (some .key)

/-- Somewhere in the frame at the front of `input`, at most `levels` deep, an object of the type
`wanted` is needed, and the frame in its place is in order but holds an object of another type. -/
inductive Misplaces (dispatch : Dispatch) (cancelled : Bool) : Nat → Bytes → ObjectType → Prop
  | here {levels : Nat} {input inner rest : Bytes} {wanted : ObjectType} {found : Object}
      (nests : dispatch.Nests input inner (some wanted))
      (read : (dispatch.readFrame cancelled levels inner).Gives found rest)
      (other : found.type ≠ wanted) : Misplaces dispatch cancelled (levels + 1) input wanted
  | deeper {levels : Nat} {input inner : Bytes} {needed : Option ObjectType} {wanted : ObjectType}
      (nests : dispatch.Nests input inner needed)
      (inside : Misplaces dispatch cancelled levels inner wanted) :
      Misplaces dispatch cancelled (levels + 1) input wanted

/-- What a nested frame denies, the frame around it is refused for. -/
theorem Nests.readFrame (nests : dispatch.Nests input inner needed)
    (denies : (dispatch.readFrame cancelled levels inner).Denies needed error) :
    (dispatch.readFrame cancelled (levels + 1) input).result = .error error := by
  cases nests with
  | owner opens codec numbered owned =>
    rw [opens.readFrame, codec]
    exact Transactions.fails_read_iff.2 (.inr ⟨_, _, numbered, .inr ⟨_, owned, denies⟩⟩)
  | carried opens codec carrying =>
    rw [opens.readFrame, codec]
    exact Successes.fails_read_iff.2 (.inr ⟨_, carrying, denies⟩)
  | key opens codec =>
    rw [opens.readFrame]
    rcases codec with codec | codec <;> rw [codec] <;>
      exact fails_bind_iff.2 (.inl (Keys.fails_readNested_iff.2 denies))

theorem Misplaces.readFrame (misplaces : dispatch.Misplaces cancelled levels input wanted) :
    (dispatch.readFrame cancelled levels input).result = .error (.wrongType wanted.name) := by
  induction misplaces with
  | here nests read other => exact nests.readFrame (.inr ⟨_, rfl, _, _, read, other, rfl⟩)
  | deeper nests inside ih => exact nests.readFrame (.inl ih)

/-- The only refusals that the peer is not blamed for come from nested frames. -/
theorem OnlyBuiltIn.refused (only : dispatch.OnlyBuiltIn services)
    (accepts : ∀ id parameters, ∃ command, services.commands id parameters = .ok command)
    (failed : (dispatch.readFrame cancelled (levels + 1) input).result = .error error) :
    error.category = .protocolViolation ∨
      ∃ inner needed, dispatch.Nests input inner needed ∧
        (dispatch.readFrame cancelled levels inner).Denies needed error := by
  rcases dispatch.opens_or_refused cancelled levels input with
    ⟨reader, payload, opens⟩ | ⟨cause, refused, result⟩ | ⟨key, result⟩
  case inr.inl =>
    obtain rfl : cause = error := Except.error.inj (result.symm.trans failed)
    exact .inl (Reading.inherited_protocolViolation.readKey input cause refused)
  case inr.inr =>
    obtain rfl := Except.error.inj (result.symm.trans failed)
    left
    simp only [readerMiss, only.running, if_true, CodingError.category]
  case inl =>
    rw [opens.readFrame] at failed
    have builtIn := only.reader opens.choose_spec.2
    simp only [Binding.builtIn, List.mem_cons, List.not_mem_nil, or_false] at builtIn
    rcases builtIn with rfl | rfl | rfl | rfl | rfl | rfl | rfl | rfl | rfl | rfl | rfl
    · exact .inl (Maps.blamesPeer_read _ _ _ _ _ failed)
    · exact .inl (Addresses.blamesPeer_read _ _ _ _ _ failed)
    · rcases Transactions.fails_read_iff.1 failed with
        number | ⟨number, marked, numbered, mark | ⟨inner, owned, denies⟩⟩
      · exact .inl (Reading.inherited_protocolViolation.decode .varint64 _ _ number)
      · exact .inl (Reading.inherited_protocolViolation.decode .bool _ _ mark)
      · exact .inr ⟨inner, _, .owner opens rfl numbered owned, denies⟩
    · exact .inl (Packed.blamesPeer_read _ _ _ _ _ _ failed)
    · rcases Successes.fails_read_iff.1 failed with mark | ⟨inner, carrying, denies⟩
      · exact .inl (Reading.inherited_protocolViolation.decode .bool _ _ mark)
      · exact .inr ⟨inner, _, .carried opens rfl carrying, denies⟩
    · cases failed
    · cases failed
    · exact .inl (Commands.blamesPeer_read accepts _ _ _ _ _ failed)
    · exact (ImmortalEntries.fails_read failed).imp_right fun denies =>
        ⟨payload, _, .key opens (.inl rfl), denies⟩
    · exact (MortalEntries.fails_read failed).imp_right fun denies =>
        ⟨payload, _, .key opens (.inr rfl), denies⟩
    · exact .inl (Keys.blamesPeer_read _ _ _ _ _ failed)

theorem OnlyBuiltIn.misplaces_of_refused (only : dispatch.OnlyBuiltIn services)
    (accepts : ∀ id parameters, ∃ command, services.commands id parameters = .ok command)
    (failed : (dispatch.readFrame cancelled levels input).result = .error error)
    (spared : error.category ≠ .protocolViolation) :
    ∃ wanted, dispatch.Misplaces cancelled levels input wanted := by
  induction levels generalizing input with
  | zero =>
    -- With no level left the frame is refused as nested too deep, whatever it holds.
    cases failed
    exact absurd rfl spared
  | succ levels ih =>
    rcases only.refused accepts failed with blamed | ⟨inner, needed, nests, denies⟩
    · exact absurd blamed spared
    · rcases denies with failed | ⟨wanted, same, found, rest, read, other, -⟩
      · obtain ⟨wanted, misplaces⟩ := ih failed
        exact ⟨wanted, .deeper nests misplaces⟩
      · obtain rfl := same
        exact ⟨wanted, .here nests read other⟩

/-- Where only built-in codecs read, octets that hold no misplaced object are read, or the peer is
to blame for the refusal. Octets that hold one are always refused, and then the blame falls on the
caller. -/
theorem OnlyBuiltIn.decode_blames (only : dispatch.OnlyBuiltIn services)
    (accepts : ∀ id parameters, ∃ command, services.commands id parameters = .ok command)
    (cancelled : Bool) (input : Bytes) :
    ((∀ wanted, ¬ dispatch.Misplaces cancelled Frame.maxNesting input wanted) →
      (∃ value, (dispatch.decode cancelled input).result = .ok value) ∨
      ∃ error, (dispatch.decode cancelled input).result = .error error ∧
        error.category = .protocolViolation) ∧
    ∀ wanted, dispatch.Misplaces cancelled Frame.maxNesting input wanted →
      ∃ error, (dispatch.decode cancelled input).result = .error error ∧
        error = .wrongType wanted.name ∧ error.category = .nonRetryable := by
  constructor
  · intro inOrder
    cases result : (dispatch.decode cancelled input).result with
    | ok value => exact .inl ⟨value, rfl⟩
    | error error =>
      refine .inr ⟨error, rfl, ?_⟩
      by_contra spared
      obtain ⟨wanted, misplaces⟩ := only.misplaces_of_refused accepts result spared
      exact inOrder wanted misplaces
  · intro wanted misplaces
    exact ⟨_, misplaces.readFrame, rfl, rfl⟩

/-- A response with a transaction that names a key where its owner's address belongs; and a key
that breaks off, which is nowhere misplaced. -/
theorem OnlyBuiltIn.decode_blames_standard :
    let dispatch := (Registry.empty.start .bare .standard).registry.dispatch
    (∃ error, (dispatch.decode true [13, 1, 5, 1, 1, 40, 0]).result = .error error ∧
      error = .wrongType ObjectType.address.name ∧ error.category = .nonRetryable) ∧
    ((∃ value, (dispatch.decode true [40, 1]).result = .ok value) ∨
      ∃ error, (dispatch.decode true [40, 1]).result = .error error ∧
        error.category = .protocolViolation) := by
  intro dispatch
  have only : dispatch.OnlyBuiltIn .bare := Registry.onlyBuiltIn_standard
  have accepts : ∀ id parameters, ∃ command, Services.bare.commands id parameters = .ok command :=
    fun id parameters => ⟨⟨id, parameters⟩, rfl⟩
  have holds : dispatch.HoldsBuiltIn .bare := Registry.holdsBuiltIn_standard
  have opens (binding : Binding) (place : binding ∈ Binding.builtIn .bare) (payload : Bytes) :
      dispatch.Opens binding (binding.id.header ++ payload) payload :=
    ⟨binding.key, Frame.readKey_header (Binding.builtIn_valid .bare binding place).1 payload,
      (holds.bound binding place).reader⟩
  have response := opens ⟨.internal Successes.id, Successes.codec⟩ (by simp [Binding.builtIn])
    [1, 5, 1, 1, 40, 0]
  have transaction := opens ⟨.internal Transactions.id, Transactions.codec⟩
    (by simp [Binding.builtIn]) [1, 1, 40, 0]
  have key := opens ⟨.internal Keys.id, Keys.codec⟩ (by simp [Binding.builtIn]) [0]
  have found : (dispatch.readFrame true 126 [40, 0]).Gives (.key []) [] := by
    rw [show [40, 0] = (WireId.internal Keys.id).header ++ [0] from rfl, key.readFrame]
    exact ⟨rfl, rfl⟩
  have misplaces : dispatch.Misplaces true Frame.maxNesting [13, 1, 5, 1, 1, 40, 0] .address :=
    .deeper (.carried response rfl rfl) (.here (.owner transaction rfl rfl rfl) found (by decide))
  have blames := OnlyBuiltIn.decode_blames only accepts true
  refine ⟨(blames _).2 .address misplaces, (blames _).1 fun wanted misplaces => ?_⟩
  have broke : (dispatch.decode true [40, 1]).result.map Object.type = .error (.truncated 1 0) := by
    decide +kernel
  rw [Dispatch.decode, misplaces.readFrame] at broke
  cases broke

/-- A transaction that names a key as its owner is refused as if the caller were to blame. -/
theorem misplaced_blames_caller :
    let dispatch := (Registry.empty.start .bare .standard).registry.dispatch
    dispatch.OnlyBuiltIn .bare ∧
    (∀ id parameters, ∃ command, Services.bare.commands id parameters = .ok command) ∧
    ∃ error, (dispatch.decode false [5, 1, 1, 40, 0]).result = .error error ∧
      error.category = .nonRetryable := by
  intro dispatch
  refine ⟨Registry.onlyBuiltIn_standard, fun id parameters => ⟨⟨id, parameters⟩, rfl⟩, ?_⟩
  have refused : (dispatch.decode false [5, 1, 1, 40, 0]).result.map Object.type =
      .error (.wrongType ObjectType.address.name) := by decide +kernel
  cases result : (dispatch.decode false [5, 1, 1, 40, 0]).result with
  | ok value =>
    rw [result] at refused
    cases refused
  | error error =>
    rw [result] at refused
    cases refused
    exact ⟨_, rfl, rfl⟩

end Dispatch

end CodecRegistry
