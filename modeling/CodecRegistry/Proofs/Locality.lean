import CodecRegistry.Codec.Records
import CodecRegistry.Proofs.Composition
import CodecRegistry.Proofs.Primitive

/-! What stands behind the octets of a read has no part in it. A read either breaks off, because it
needs more octets than there are, or it comes to the same whatever stands behind, and leaves that
standing. Programs of reads inherit this as long as they neither ask how much is left nor go on
after a failed read, as none of the built-in codecs does. -/

namespace CodecRegistry

/-- The input ended where more of it was needed. -/
def BrokeOff {α : Type} (result : Except CodingError α) : Prop :=
  ∃ needed remaining, result = .error (.truncated needed remaining) ∧ remaining < needed

namespace Reading

/-- A read that further octets matter to only when it breaks off. -/
def Local {α : Type} (read : Bytes → Reading α) : Prop :=
  ∀ input more, BrokeOff (read input).result ∨
    read (input ++ more) = ⟨(read input).result, (read input).rest ++ more⟩

theorem inherited_local : Inherited fun _ => Local where
  varint width := by
    suffices from_any : ∀ soFar, Local (Varint.decodeFrom width soFar) from from_any ⟨0, 0⟩
    intro soFar input more
    induction input generalizing soFar with
    | nil => exact .inl ⟨1, 0, rfl, Nat.one_pos⟩
    | cons byte rest ih =>
      simp only [List.cons_append, Varint.decodeFrom]
      cases Varint.step width soFar byte with
      | more soFar => exact ih soFar
      | finished value => exact .inr rfl
      | overflow => exact .inr rfl
  take count input more := by
    by_cases enough : count ≤ input.length
    · right
      have front : (input.take count).length = count := List.length_take_of_le enough
      have here := take_append front (input.drop count)
      have there := take_append front (input.drop count ++ more)
      rw [← List.append_assoc] at there
      rw [List.take_append_drop] at here there
      rw [here, there]
    · left
      have short := Bytes.split?_eq_none_iff.2 (Nat.lt_of_not_le enough)
      exact ⟨count, input.length, by rw [take, short], Nat.lt_of_not_le enough⟩
  accept value input more := .inr rfl
  refuse cause input more := .inr rfl
  andThen {α β read next} first later input more := by
    dsimp only
    rcases first input more with ⟨needed, remaining, failed, less⟩ | same
    · left
      refine ⟨needed, remaining, ?_, less⟩
      generalize read input = reading at failed
      obtain ⟨result, rest⟩ := reading
      subst failed
      rfl
    · rw [same]
      generalize read input = reading
      obtain ⟨result, rest⟩ := reading
      cases result with
      | ok value => exact later value rest more
      | error error => exact .inr rfl

end Reading

/-- As for single reads; what was reported does not change either. -/
def Decoding.Local {α : Type} (read : Bytes → Decoding α) : Prop :=
  ∀ input more, BrokeOff (read input).result ∨
    read (input ++ more) = { read input with rest := (read input).rest ++ more }

namespace Decoding

variable {α : Type} {read : Bytes → Decoding α} {input front : Bytes} {value : α}

theorem Local.of_ok (reads : Local read) (done : (read input).result = .ok value)
    (behind : Bytes) : read (input ++ behind) = { read input with
      rest := (read input).rest ++ behind } := by
  rcases reads input behind with ⟨needed, remaining, failed, -⟩ | same
  · rw [done] at failed
    cases failed
  · exact same

theorem Local.of_error {error : CodingError} (reads : Local read)
    (failed : (read input).result = .error error)
    (whole : ∀ needed remaining, error ≠ .truncated needed remaining) (behind : Bytes) :
    (read (input ++ behind)).result = .error error := by
  rcases reads input behind with ⟨needed, remaining, short, -⟩ | same
  · rw [failed] at short
    cases short
    exact absurd rfl (whole needed remaining)
  · rw [same, failed]

/-- What is read to its last octet breaks off anywhere before. -/
theorem Local.brokeOff_front (reads : Local read) (done : (read input).result = .ok value)
    (nothing : (read input).rest = []) (before : front <+: input) (shorter : front ≠ input) :
    BrokeOff (read front).result := by
  obtain ⟨behind, rfl⟩ := before
  rcases reads front behind with broke | same
  · exact broke
  · rw [same] at nothing
    obtain ⟨-, rfl⟩ := List.append_eq_nil_iff.1 nothing
    exact absurd (List.append_nil front).symm shorter

end Decoding

namespace ReadProgram

variable {α β : Type}

/-- A program that reads one thing after the other: it does not ask how much is left, and ends with
the first read that fails. -/
def Sequential : ReadProgram α → Prop
  | done _ => True
  | fail _ => True
  | scalar _ next =>
    (∀ value, (next (.ok value)).Sequential) ∧ ∀ error, next (.error error) = fail error
  | object next =>
    (∀ value, (next (.ok value)).Sequential) ∧ ∀ error, next (.error error) = fail error
  | depth next => ∀ frames, (next frames).Sequential
  | remaining _ => False
  | cancelled next => ∀ flag, (next flag).Sequential

theorem Sequential.bind {program : ReadProgram α} {f : α → ReadProgram β}
    (first : program.Sequential) (later : ∀ value, (f value).Sequential) :
    (program >>= f).Sequential := by
  show (program.bind f).Sequential
  induction program with
  | done value => exact later value
  | fail error => trivial
  | scalar kind next ih =>
    obtain ⟨goesOn, stops⟩ := first
    exact ⟨fun value => ih _ (goesOn value), fun error => congrArg (·.bind f) (stops error)⟩
  | object next ih =>
    obtain ⟨goesOn, stops⟩ := first
    exact ⟨fun value => ih _ (goesOn value), fun error => congrArg (·.bind f) (stops error)⟩
  | depth next ih => exact fun frames => ih frames (first frames)
  | remaining next ih => exact first.elim
  | cancelled next ih => exact fun flag => ih flag (first flag)

theorem Sequential.map {program : ReadProgram α} (first : program.Sequential) (f : α → β) :
    (f <$> program).Sequential :=
  first.bind (f := pure ∘ f) fun _ => trivial

theorem sequential_value (kind : ScalarKind) : (value kind).Sequential :=
  ⟨fun _ => trivial, fun _ => rfl⟩

theorem sequential_nested : nested.Sequential := ⟨fun _ => trivial, fun _ => rfl⟩

theorem inherited_sequential : Inherited fun _ program => program.Sequential where
  done _ := trivial
  fail _ := trivial
  value := sequential_value
  nested := sequential_nested
  bind := Sequential.bind

/-- A failed read ends the program, so an input that breaks off inside breaks the program off. -/
theorem Sequential.local_run {program : ReadProgram α} (sequential : program.Sequential)
    {frame : Bytes → Decoding Object} (inner : Decoding.Local frame) (frames : Nat) (flag : Bool) :
    Decoding.Local (run frame frames flag program) := by
  intro input more
  induction program generalizing input with
  | done value => exact .inr rfl
  | fail error => exact .inr rfl
  | scalar kind next ih =>
    obtain ⟨goesOn, stops⟩ := sequential
    simp only [run]
    rcases Reading.inherited_local.decode kind input more with
      ⟨needed, remaining, failed, less⟩ | same
    · rw [failed, stops]
      exact .inl ⟨needed, remaining, rfl, less⟩
    · rw [same]
      cases (kind.decode input).result with
      | ok value => exact ih _ (goesOn value) _
      | error error =>
        rw [stops]
        exact .inr rfl
  | object next ih =>
    obtain ⟨goesOn, stops⟩ := sequential
    simp only [run]
    rcases inner input more with ⟨needed, remaining, failed, less⟩ | same
    · rw [failed, stops]
      exact .inl ⟨needed, remaining, rfl, less⟩
    · -- What the nested frame reported stands in front of what is reported behind it.
      rw [same]
      generalize frame input = decoding
      obtain ⟨result, rest, log⟩ := decoding
      cases result with
      | ok value =>
        rcases ih _ (goesOn value) rest with broke | same
        · exact .inl broke
        · right
          simp only [same]
      | error error =>
        rw [stops]
        exact .inr rfl
  | depth next ih => exact ih frames (sequential frames) input
  | remaining next ih => exact sequential.elim
  | cancelled next ih => exact ih flag (sequential flag) input

end ReadProgram

namespace Codec

open ReadProgram

/-! ## The codecs that read one thing after the other -/

theorem sequential_builtIn (services : Services) :
    ∀ declaration ∈ Declaration.builtIn, (declaration.make services).read.Sequential :=
  inherits_builtIn inherited_sequential services

theorem sequential_field {kind : FieldKind} (outright : kind ≠ .attempt ∧ kind ≠ .remaining) :
    (Field.read kind).Sequential := by
  cases kind with
  | scalar kind => exact (sequential_value _).bind fun _ => trivial
  | object => exact sequential_nested.bind fun _ => trivial
  | attempt => exact absurd rfl outright.1
  | remaining => exact absurd rfl outright.2
  | depth => exact fun _ => trivial
  | cancelled => exact fun _ => trivial

theorem sequential_fields {kinds : List FieldKind}
    (outright : ∀ kind ∈ kinds, kind ≠ .attempt ∧ kind ≠ .remaining) :
    (Field.readAll kinds).Sequential := by
  induction kinds with
  | nil => trivial
  | cons kind rest ih =>
    obtain ⟨here, later⟩ := List.forall_mem_cons.1 outright
    exact (sequential_field here).bind fun _ => (ih later).bind fun _ => trivial

/-- A record codec notes neither what is left nor failures unless a field asks for it. -/
theorem RecordLayout.sequential_read (layout : RecordLayout)
    (outright : ∀ kind ∈ layout.fields, kind ≠ .attempt ∧ kind ≠ .remaining) :
    layout.read.Sequential := by
  unfold read
  split
  · trivial
  · unfold readKnown
    dsimp only
    split
    · refine ((sequential_value .byte).map UInt8.toNat).bind fun _ =>
        (sequential_fields outright).bind fun _ => ?_
      split <;> trivial
    · refine (sequential_fields outright).bind fun _ => ?_
      split <;> trivial

end Codec

end CodecRegistry
