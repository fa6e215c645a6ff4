import CodecRegistry.Proofs.Locality

/-! Two registries side by side. Where the second one has the readers of the first, it makes the
same of an input, unless the first one failed with an error that is lost: one that the second need
not share. For this a codec must not make up for a lost error in a nested frame. What counts as lost
is left open: nothing at all, a key without a reader, or any error. -/

namespace CodecRegistry

/-- What one decoding came to and left the other one does too, unless the first is lost. -/
def Decoding.Kept {α : Type} (lost : CodingError → Prop) (one other : Decoding α) : Prop :=
  (∃ error, one.result = .error error ∧ lost error) ∨
    other.result = one.result ∧ other.rest = one.rest

namespace Decoding

variable {α : Type} {lost : CodingError → Prop} {one other : Decoding α}

theorem Kept.of_ok (kept : Kept lost one other) {value : α} (done : one.result = .ok value) :
    other.result = .ok value ∧ other.rest = one.rest := by
  rcases kept with ⟨error, failed, -⟩ | ⟨result, rest⟩
  · rw [done] at failed
    cases failed
  · rw [result, done]
    exact ⟨rfl, rest⟩

theorem Kept.of_error (kept : Kept lost one other) {error : CodingError}
    (failed : one.result = .error error) (spared : ¬ lost error) :
    other.result = .error error ∧ other.rest = one.rest := by
  rcases kept with ⟨cause, because, gone⟩ | ⟨result, rest⟩
  · rw [failed] at because
    cases because
    exact absurd gone spared
  · rw [result, failed]
    exact ⟨rfl, rest⟩

theorem kept_never_iff :
    Kept (fun _ => False) one other ↔ other.result = one.result ∧ other.rest = one.rest := by
  simp [Kept]

end Decoding

namespace ReadProgram

variable {α : Type} {lost : CodingError → Prop}

/-- A program that is lost once a nested frame is: it can only fail from there on, with an error
that is lost too. -/
def LostWith (lost : CodingError → Prop) : ReadProgram α → Prop
  | done _ => True
  | fail _ => True
  | scalar kind next => ∀ input, (next (kind.decode input).result).LostWith lost
  | object next =>
    (∀ result, (∀ error, result = .error error → ¬ lost error) → (next result).LostWith lost) ∧
      ∀ error, lost error → ∀ frame frames flag input, ∃ cause,
        ((next (.error error)).run frame frames flag input).result = .error cause ∧ lost cause
  | depth next => ∀ frames, (next frames).LostWith lost
  | remaining next => ∀ count, (next count).LostWith lost
  | cancelled next => ∀ flag, (next flag).LostWith lost

/-- A program that cannot succeed any more once a nested frame has failed. -/
def Unforgiving (program : ReadProgram α) : Prop := program.LostWith fun _ => True

/-- Where nothing is lost, a program may do as it likes. -/
theorem lostWith_never (program : ReadProgram α) : program.LostWith fun _ => False := by
  induction program with
  | done value => trivial
  | fail error => trivial
  | scalar kind next ih => exact fun input => ih _
  | object next ih => exact ⟨fun result _ => ih result, fun error gone => gone.elim⟩
  | depth next ih => exact ih
  | remaining next ih => exact ih
  | cancelled next ih => exact ih

/-- A program that ends with the first failed read passes its error on. -/
theorem Sequential.lostWith {program : ReadProgram α} (sequential : program.Sequential)
    (lost : CodingError → Prop) : program.LostWith lost := by
  induction program with
  | done value => trivial
  | fail error => trivial
  | scalar kind next ih =>
    intro input
    obtain ⟨goesOn, stops⟩ := sequential
    cases (kind.decode input).result with
    | ok value => exact ih _ (goesOn value)
    | error error =>
      rw [stops]
      trivial
  | object next ih =>
    obtain ⟨goesOn, stops⟩ := sequential
    refine ⟨fun result _ => ?_, fun error gone frame frames flag input => ?_⟩
    · cases result with
      | ok value => exact ih _ (goesOn value)
      | error error =>
        rw [stops]
        trivial
    · rw [stops]
      exact ⟨error, rfl, gone⟩
  | depth next ih => exact fun frames => ih frames (sequential frames)
  | remaining next ih => exact sequential.elim
  | cancelled next ih => exact fun flag => ih flag (sequential flag)

/-- A program sees of its nested frames only what they came to and what they left. -/
theorem LostWith.kept_run {program : ReadProgram α} (loses : program.LostWith lost)
    {frame other : Bytes → Decoding Object}
    (inner : ∀ input, Decoding.Kept lost (frame input) (other input)) (frames : Nat) (flag : Bool)
    (input : Bytes) :
    Decoding.Kept lost (program.run frame frames flag input)
      (program.run other frames flag input) := by
  induction program generalizing input with
  | done value => exact .inr ⟨rfl, rfl⟩
  | fail error => exact .inr ⟨rfl, rfl⟩
  | scalar kind next ih => exact ih _ (loses input) _
  | object next ih =>
    obtain ⟨goesOn, givesUp⟩ := loses
    simp only [run]
    by_cases gone : ∃ error, (frame input).result = .error error ∧ lost error
    · obtain ⟨error, failed, gone⟩ := gone
      left
      rw [failed]
      exact givesUp error gone frame frames flag _
    · rcases inner input with failed | ⟨result, rest⟩
      · exact absurd failed gone
      · rw [result, rest]
        exact ih _ (goesOn _ fun error failed hidden => gone ⟨error, failed, hidden⟩) _
  | depth next ih => exact ih frames (loses frames) input
  | remaining next ih => exact ih input.length (loses input.length) input
  | cancelled next ih => exact ih flag (loses flag) input

end ReadProgram

namespace Dispatch

variable {lost : CodingError → Prop} {cancelled : Bool} {one other : Dispatch}

/-- The second registry has the readers of the first, whose codecs are lost with their nested
frames. A key without a reader in the first is lost, or has none in the second either. -/
structure Covers (lost : CodingError → Prop) (cancelled : Bool) (one other : Dispatch) : Prop where
  reader : ∀ {key reader}, one.readers.get? key = some reader →
    other.readers.get? key = some reader ∧ reader.codec.read.LostWith lost
  miss : ∀ {key}, one.readers.get? key = none → lost (one.readerMiss cancelled key) ∨
    other.readers.get? key = none ∧
      other.readerMiss cancelled key = one.readerMiss cancelled key

/-- Level by level, the second registry does what the first one does. -/
theorem Covers.kept_readFrame (covers : Covers lost cancelled one other) (levels : Nat)
    (input : Bytes) :
    Decoding.Kept lost (one.readFrame cancelled levels input)
      (other.readFrame cancelled levels input) := by
  induction levels generalizing input with
  | zero => exact .inr ⟨rfl, rfl⟩
  | succ levels ih =>
    simp only [readFrame]
    generalize Frame.readKey input = header
    obtain ⟨result, payload⟩ := header
    cases result with
    | error error => exact .inr ⟨rfl, rfl⟩
    | ok key =>
      cases found : one.readers.get? key with
      | none =>
        simp only [found]
        rcases covers.miss found with gone | ⟨absent, same⟩
        · exact .inl ⟨_, rfl, gone⟩
        · simp only [absent, same]
          exact .inr ⟨rfl, rfl⟩
      | some reader =>
        obtain ⟨there, loses⟩ := covers.reader found
        simp only [found, there]
        exact loses.kept_run ih _ _ _

/-- Who reads decides what is read, at every depth. Only a report of a missing reader may look
different: it lists the readers in the order in which they came. -/
theorem readFrame_congr (running : one.isRunning = other.isRunning)
    (same : ∀ key, one.readers.get? key = other.readers.get? key) (cancelled : Bool) (levels : Nat)
    (input : Bytes) :
    (other.readFrame cancelled levels input).result =
        (one.readFrame cancelled levels input).result ∧
      (other.readFrame cancelled levels input).rest =
        (one.readFrame cancelled levels input).rest := by
  have covers : Covers (fun _ => False) cancelled one other := by
    refine ⟨fun {key reader} found => ⟨?_, ReadProgram.lostWith_never _⟩,
      fun {key} absent => .inr ⟨?_, ?_⟩⟩
    · rw [← same, found]
    · rw [← same, absent]
    · simp only [readerMiss, running]
  exact Decoding.kept_never_iff.1 (covers.kept_readFrame levels input)

/-- Who writes decides what is written, at every depth. -/
theorem encode_congr (same : ∀ type, one.writers.get? type = other.writers.get? type)
    (cancelled : Bool) (object : Object) :
    one.encode cancelled object = other.encode cancelled object := by
  have nested : (fun (value : Object) (_ : value.span < object.span) =>
      one.encode cancelled value) = fun value _ => other.encode cancelled value := by
    funext value deeper
    exact encode_congr same cancelled value
  unfold encode
  rw [same, nested]
termination_by object.span

end Dispatch

end CodecRegistry
