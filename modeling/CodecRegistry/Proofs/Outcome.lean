import CodecRegistry.Proofs.Payload

/-! A run read backwards. A run that gave a value has got it from values that its parts gave, each
from what the one before had left; a run that failed did so in one of its parts, and those before
it gave something. -/

namespace CodecRegistry

namespace Decoding

variable {α β : Type} {decoding : Decoding α} {next : α → Bytes → Decoding β} {value : β}
  {rest : Bytes} {error : CodingError}

/-- What a decoding came to, and what it left. -/
def Gives (decoding : Decoding α) (value : α) (rest : Bytes) : Prop :=
  decoding.result = .ok value ∧ decoding.rest = rest

@[simp] theorem gives_mk_iff {result : Except CodingError α} {left : Bytes} {log : List Event}
    {value : α} :
    (Decoding.mk result left log).Gives value rest ↔ result = .ok value ∧ left = rest := Iff.rfl

theorem gives_andThen_iff :
    (decoding.andThen next).Gives value rest ↔
      ∃ first middle, decoding.Gives first middle ∧ (next first middle).Gives value rest := by
  obtain ⟨result, left, log⟩ := decoding
  cases result with
  | ok first => simp [Gives, andThen]
  | error error => simp [Gives, andThen]

theorem fails_andThen_iff :
    (decoding.andThen next).result = .error error ↔
      decoding.result = .error error ∨
        ∃ first middle, decoding.Gives first middle ∧
          (next first middle).result = .error error := by
  obtain ⟨result, left, log⟩ := decoding
  cases result with
  | ok first => simp [Gives, andThen]
  | error error => simp [Gives, andThen]

end Decoding

namespace ReadProgram

variable {α β : Type} {frame : Bytes → Decoding Object} {frames : Nat} {flag : Bool}
  {input rest : Bytes} {error : CodingError}

@[simp] theorem run_done (value : α) :
    run frame frames flag (done value) input = ⟨.ok value, input, []⟩ := rfl

@[simp] theorem run_fail (error : CodingError) :
    run frame frames flag (fail error : ReadProgram α) input = ⟨.error error, input, []⟩ := rfl

theorem gives_pure_iff {given value : α} :
    (run frame frames flag (pure given) input).Gives value rest ↔ given = value ∧ input = rest := by
  rw [run_pure, Decoding.gives_mk_iff, Except.ok.injEq]

@[simp] theorem gives_bind_iff {program : ReadProgram α} {f : α → ReadProgram β} {value : β} :
    (run frame frames flag (program >>= f) input).Gives value rest ↔
      ∃ first middle, (run frame frames flag program input).Gives first middle ∧
        (run frame frames flag (f first) middle).Gives value rest := by
  rw [run_bind, Decoding.gives_andThen_iff]

theorem gives_value_iff (kind : ScalarKind) {value : kind.Carrier} :
    (run frame frames flag (ReadProgram.value kind) input).Gives value rest ↔
      kind.decode input = ⟨.ok value, rest⟩ := by
  simp only [ReadProgram.value, run]
  generalize kind.decode input = reading
  obtain ⟨result, left⟩ := reading
  cases result with
  | ok value => simp [ofExcept]
  | error error => simp [ofExcept]

@[simp] theorem gives_nested_iff {value : Object} :
    (run frame frames flag nested input).Gives value rest ↔ (frame input).Gives value rest := by
  simp only [nested, run, Decoding.Gives]
  generalize frame input = inner
  obtain ⟨result, left, log⟩ := inner
  cases result with
  | ok value => simp [ofExcept]
  | error error => simp [ofExcept]

@[simp] theorem fails_bind_iff {program : ReadProgram α} {f : α → ReadProgram β} :
    (run frame frames flag (program >>= f) input).result = .error error ↔
      (run frame frames flag program input).result = .error error ∨
        ∃ first middle, (run frame frames flag program input).Gives first middle ∧
          (run frame frames flag (f first) middle).result = .error error := by
  rw [run_bind, Decoding.fails_andThen_iff]

theorem fails_value_iff (kind : ScalarKind) :
    (run frame frames flag (ReadProgram.value kind) input).result = .error error ↔
      (kind.decode input).result = .error error := by
  simp only [ReadProgram.value, run]
  generalize kind.decode input = reading
  obtain ⟨result, left⟩ := reading
  cases result with
  | ok value => simp [ofExcept]
  | error error => simp [ofExcept]

@[simp] theorem fails_nested_iff :
    (run frame frames flag nested input).result = .error error ↔
      (frame input).result = .error error := by
  simp only [nested, run]
  generalize frame input = inner
  obtain ⟨result, left, log⟩ := inner
  cases result with
  | ok value => simp [ofExcept]
  | error error => simp [ofExcept]

end ReadProgram

namespace Codec

open ReadProgram

variable {frame : Bytes → Decoding Object} {frames : Nat} {flag : Bool} {input rest : Bytes}
  {error : CodingError} {object : Object}

theorem Addresses.gives_nameOf_iff {name : String} :
    ((nameOf object).run frame frames flag input).Gives name rest ↔
      object = .address name ∧ input = rest := by
  cases object <;> simp [nameOf]

theorem Addresses.fails_nameOf_iff :
    ((nameOf object).run frame frames flag input).result = .error error ↔
      object.type ≠ .address ∧ error = .wrongType ObjectType.address.name := by
  cases object <;> simp [nameOf, Object.type, eq_comm]

theorem Keys.gives_dataOf_iff {data : Bytes} :
    ((dataOf object).run frame frames flag input).Gives data rest ↔
      object = .key data ∧ input = rest := by
  cases object <;> simp [dataOf]

theorem Keys.fails_dataOf_iff :
    ((dataOf object).run frame frames flag input).result = .error error ↔
      object.type ≠ .key ∧ error = .wrongType ObjectType.key.name := by
  cases object <;> simp [dataOf, Object.type, eq_comm]

end Codec

namespace Dispatch

variable {dispatch : Dispatch} {cancelled : Bool} {levels : Nat} {input payload rest : Bytes}
  {reader : Binding} {value : Object} {error : CodingError}

/-- The frame at the front of `input` is for `reader`, and its header ends before `payload`. -/
def Opens (dispatch : Dispatch) (reader : Binding) (input payload : Bytes) : Prop :=
  ∃ key, Frame.readKey input = ⟨.ok key, payload⟩ ∧ dispatch.readers.get? key = some reader

theorem Opens.readFrame (opens : dispatch.Opens reader input payload) :
    dispatch.readFrame cancelled (levels + 1) input =
      reader.codec.read.run (dispatch.readFrame cancelled levels) (Frame.maxNesting - levels)
        cancelled payload := by
  obtain ⟨key, header, found⟩ := opens
  simp only [Dispatch.readFrame, header, found]

/-- A frame is for somebody, or its header is refused. -/
theorem opens_or_refused (dispatch : Dispatch) (cancelled : Bool) (levels : Nat) (input : Bytes) :
    (∃ reader payload, dispatch.Opens reader input payload) ∨
    (∃ error, (Frame.readKey input).result = .error error ∧
      (dispatch.readFrame cancelled (levels + 1) input).result = .error error) ∨
    ∃ key, (dispatch.readFrame cancelled (levels + 1) input).result =
      .error (dispatch.readerMiss cancelled key) := by
  simp only [Dispatch.readFrame, Opens]
  generalize Frame.readKey input = header
  obtain ⟨result, payload⟩ := header
  cases result with
  | error error => exact .inr (.inl ⟨error, rfl, rfl⟩)
  | ok key =>
    cases found : dispatch.readers.get? key with
    | none => exact .inr (.inr ⟨key, by simp only [found]⟩)
    | some reader => exact .inl ⟨reader, payload, key, rfl, found⟩

/-- What was read from a frame, its reader read from the payload. -/
theorem exists_opens_of_gives
    (gives : (dispatch.readFrame cancelled (levels + 1) input).Gives value rest) :
    ∃ reader payload, dispatch.Opens reader input payload ∧
      (reader.codec.read.run (dispatch.readFrame cancelled levels) (Frame.maxNesting - levels)
        cancelled payload).Gives value rest := by
  rcases dispatch.opens_or_refused cancelled levels input with
    ⟨reader, payload, opens⟩ | ⟨error, -, refused⟩ | ⟨key, refused⟩
  · rw [opens.readFrame] at gives
    exact ⟨reader, payload, opens, gives⟩
  · cases refused.symm.trans gives.1
  · cases refused.symm.trans gives.1

end Dispatch

end CodecRegistry
