import CodecRegistry.Codec
import CodecRegistry.Proofs.Scalar

/-! What carrying programs out comes to, one step after the other. A program that goes on after
another one is run where the first one stopped, so codecs can be followed read by read. -/

namespace CodecRegistry

namespace Decoding

variable {α β : Type}

/-- Goes on with what was read, or stops at the failure. -/
def andThen (decoding : Decoding α) (next : α → Bytes → Decoding β) : Decoding β :=
  match decoding.result with
  | .ok value =>
    let later := next value decoding.rest
    ⟨later.result, later.rest, decoding.log ++ later.log⟩
  | .error error => ⟨.error error, decoding.rest, decoding.log⟩

@[simp] theorem andThen_ok (value : α) (rest : Bytes) (next : α → Bytes → Decoding β) :
    andThen ⟨.ok value, rest, []⟩ next = next value rest := rfl

theorem result_andThen_error {decoding : Decoding α} {error : CodingError}
    (h : decoding.result = .error error) (next : α → Bytes → Decoding β) :
    (decoding.andThen next).result = .error error := by
  simp only [andThen, h]

end Decoding

namespace ReadProgram

variable {α β : Type} (frame : Bytes → Decoding Object) (frames : Nat) (flag : Bool)

@[simp] theorem run_pure (value : α) (input : Bytes) :
    run frame frames flag (pure value) input = ⟨.ok value, input, []⟩ := rfl

theorem run_bind (program : ReadProgram α) (f : α → ReadProgram β) (input : Bytes) :
    run frame frames flag (program >>= f) input =
      (run frame frames flag program input).andThen fun value rest =>
        run frame frames flag (f value) rest := by
  show run frame frames flag (program.bind f) input = _
  induction program generalizing input with
  | done value => rfl
  | fail error => rfl
  | scalar kind next ih => exact ih _ _
  | depth next ih => exact ih _ _
  | remaining next ih => exact ih _ _
  | cancelled next ih => exact ih _ _
  | object next ih =>
    simp only [bind, run, ih, Decoding.andThen]
    split <;> simp only [List.append_assoc]

theorem bind_assoc {γ : Type} (program : ReadProgram α) (f : α → ReadProgram β)
    (g : β → ReadProgram γ) : program >>= f >>= g = program >>= fun value => f value >>= g := by
  show (program.bind f).bind g = program.bind fun value => (f value).bind g
  induction program with
  | done value => rfl
  | fail error => rfl
  | scalar kind next ih => exact congrArg _ (funext ih)
  | object next ih => exact congrArg _ (funext ih)
  | depth next ih => exact congrArg _ (funext ih)
  | remaining next ih => exact congrArg _ (funext ih)
  | cancelled next ih => exact congrArg _ (funext ih)

/-- Behind a primitive value reading goes on. -/
theorem run_decoded_bind {kind : ScalarKind} {value : kind.Carrier} {input rest : Bytes}
    (decoded : kind.decode input = ⟨.ok value, rest⟩) (f : kind.Carrier → ReadProgram α) :
    run frame frames flag (ReadProgram.value kind >>= f) input =
      run frame frames flag (f value) rest := by
  rw [run_bind]
  simp only [ReadProgram.value, run, decoded, ofExcept, Decoding.andThen_ok]

/-- A primitive value is read where it was written, and reading goes on behind it. -/
theorem run_value_bind (kind : ScalarKind) {value : kind.Carrier} (fits : kind.Fits value)
    (f : kind.Carrier → ReadProgram α) (rest : Bytes) :
    run frame frames flag (ReadProgram.value kind >>= f) (kind.encode value ++ rest) =
      run frame frames flag (f value) rest :=
  run_decoded_bind frame frames flag (ScalarKind.decode_encode kind fits rest) f

/-- A nested frame is whatever the reader of frames makes of it. -/
theorem run_nested_bind (f : Object → ReadProgram α) (input : Bytes) :
    run frame frames flag (nested >>= f) input =
      (frame input).andThen fun value rest => run frame frames flag (f value) rest := by
  rw [run_bind]
  congr 1
  simp only [nested, run]
  generalize frame input = inner
  obtain ⟨result, rest, log⟩ := inner
  cases result with
  | ok value => simp only [ofExcept, run, List.append_nil]
  | error error => simp only [ofExcept, run, List.append_nil]

/-- A program that reads no nested frame. -/
def Flat : ReadProgram α → Prop
  | done _ => True
  | fail _ => True
  | scalar _ next => ∀ result, (next result).Flat
  | object _ => False
  | depth next => ∀ frames, (next frames).Flat
  | remaining next => ∀ count, (next count).Flat
  | cancelled next => ∀ flag, (next flag).Flat

/-- Whoever reads frames has no part in such a program. -/
theorem Flat.run_eq {program : ReadProgram α} (flat : program.Flat)
    (other : Bytes → Decoding Object) (input : Bytes) :
    run frame frames flag program input = run other frames flag program input := by
  induction program generalizing input with
  | done value => rfl
  | fail error => rfl
  | scalar kind next ih => exact ih _ (flat _) _
  | object next ih => exact flat.elim
  | depth next ih => exact ih _ (flat _) _
  | remaining next ih => exact ih _ (flat _) _
  | cancelled next ih => exact ih _ (flat _) _

theorem Flat.bind {program : ReadProgram α} {f : α → ReadProgram β} (first : program.Flat)
    (later : ∀ value, (f value).Flat) : (program >>= f).Flat := by
  show (program.bind f).Flat
  induction program with
  | done value => exact later value
  | fail error => trivial
  | scalar kind next ih => exact fun result => ih result (first result)
  | object next ih => exact first.elim
  | depth next ih => exact fun frames => ih frames (first frames)
  | remaining next ih => exact fun count => ih count (first count)
  | cancelled next ih => exact fun flag => ih flag (first flag)

theorem flat_value (kind : ScalarKind) : (value kind).Flat := by
  rintro (error | value) <;> trivial

end ReadProgram

namespace WriteProgram

variable {bound : Nat}

/-- A program that nests no object. -/
def Flat : WriteProgram bound → Prop
  | done => True
  | fail _ => True
  | emit _ next => next.Flat
  | object .. => False
  | cancelled next => ∀ flag, (next flag).Flat

theorem Flat.run_eq {program : WriteProgram bound} (flat : program.Flat)
    (frame other : (value : Object) → value.span < bound → Encoding) (flag : Bool) :
    run frame flag program = run other flag program := by
  induction program with
  | done => rfl
  | fail error => rfl
  | emit octets next ih => simp only [run, ih flat]
  | object value deeper next ih => exact flat.elim
  | cancelled next ih => exact ih flag (flat flag)

end WriteProgram

end CodecRegistry
