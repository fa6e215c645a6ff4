import CodecRegistry.Proofs.Lookup
import CodecRegistry.Proofs.Padded

/-! Loops whose number of rounds the stream names. A codec reads a count and then goes round as
often as it says, so a hostile count would keep it busy for ever, were it not that each round
consumes octets and that the first one that fails ends the loop. What bounds a loop is therefore
the octets behind the count, and the count decides only whether they suffice. -/

namespace CodecRegistry

namespace ReadProgram

variable {α : Type}

/-- Goes round so often, behind the items of the rounds before, which stand in reverse. -/
def loop (round : ReadProgram α) : Nat → List α → ReadProgram (List α)
  | 0, before => pure before.reverse
  | count + 1, before => do
    let item ← round
    loop round count (item :: before)

/-- Rounds that were completed one after the other, what they gave, and what they left. -/
inductive Rounds (round : ReadProgram α) (frame : Bytes → Decoding Object) (frames : Nat)
    (flag : Bool) : Bytes → List α → Bytes → Prop
  | none (input : Bytes) : Rounds round frame frames flag input [] input
  | more {input middle rest : Bytes} {item : α} {items : List α}
      (first : (round.run frame frames flag input).Gives item middle)
      (later : Rounds round frame frames flag middle items rest) :
      Rounds round frame frames flag input (item :: items) rest

/-- A round that consumes so many octets when it is completed, and otherwise fails for one of these
reasons. -/
structure Costs (least : Nat) (fault : CodingError → Prop) (round : ReadProgram α) : Prop where
  consumes : ∀ {frame frames flag input item rest},
    (round.run frame frames flag input).Gives item rest → least + rest.length ≤ input.length
  fails : ∀ {frame frames flag input error},
    (round.run frame frames flag input).result = .error error → fault error

/-- What a codec comes to that goes round so often on `body` and makes an object of the items. -/
structure Bounded (least : Nat) (fault : CodingError → Prop) (round : ReadProgram α)
    (made : List α → Except CodingError Object) (frame : Bytes → Decoding Object) (frames : Nat)
    (flag : Bool) (count : Nat) (body : Bytes) (decoding : Decoding Object) : Prop where
  /-- It completes only rounds that the octets pay for. Then a round fails, and the codec with it,
  or the rounds are all there. -/
  ends : ∃ items left, Rounds round frame frames flag body items left ∧ items.length ≤ count ∧
    least * items.length + left.length ≤ body.length ∧
    (items.length < count → ∃ error, (round.run frame frames flag left).result = .error error ∧
      decoding.result = .error error) ∧
    (items.length = count → decoding.result = made items ∧ decoding.rest = left)
  all : ∀ {object rest}, decoding.Gives object rest →
    ∃ items, items.length = count ∧ Rounds round frame frames flag body items rest ∧
      made items = .ok object
  short : body.length < least * count → ∃ error, fault error ∧ decoding.result = .error error

variable {round : ReadProgram α} {frame : Bytes → Decoding Object} {frames : Nat} {flag : Bool}
  {input rest : Bytes} {items before all : List α} {least count : Nat}
  {fault : CodingError → Prop}

theorem Costs.rounds (costs : Costs least fault round)
    (rounds : Rounds round frame frames flag input items rest) :
    least * items.length + rest.length ≤ input.length := by
  induction rounds with
  | none => rw [List.length_nil, Nat.mul_zero, Nat.zero_add]
  | more first later ih =>
    have paid := costs.consumes first
    rw [List.length_cons, Nat.mul_succ]
    omega

/-- Where each item can be written in no more octets than it was got from, all of them can. -/
theorem Rounds.shortest {Fits : α → Prop} {write : α → Bytes}
    (each : ∀ {input item rest}, (round.run frame frames flag input).Gives item rest →
      Fits item ∧ (write item).length + rest.length ≤ input.length)
    (rounds : Rounds round frame frames flag input items rest) :
    (∀ item ∈ items, Fits item) ∧
      (items.flatMap write).length + rest.length ≤ input.length := by
  induction rounds with
  | none input => exact ⟨fun _ mem => absurd mem List.not_mem_nil, (Nat.zero_add _).le⟩
  | more first later ih =>
    obtain ⟨fits, short⟩ := each first
    obtain ⟨laterFits, laterShort⟩ := ih
    refine ⟨List.forall_mem_cons.2 ⟨fits, laterFits⟩, ?_⟩
    rw [List.flatMap_cons, List.length_append]
    omega

theorem gives_loop_iff :
    ((loop round count before).run frame frames flag input).Gives all rest ↔
      ∃ items, all = before.reverse ++ items ∧ items.length = count ∧
        Rounds round frame frames flag input items rest := by
  induction count generalizing before input with
  | zero =>
    rw [loop, gives_pure_iff]
    constructor
    · rintro ⟨rfl, rfl⟩
      exact ⟨[], (List.append_nil _).symm, rfl, .none _⟩
    · rintro ⟨items, rfl, nothing, rounds⟩
      rw [List.length_eq_zero_iff.1 nothing] at rounds ⊢
      cases rounds
      exact ⟨(List.append_nil _).symm, rfl⟩
  | succ count ih =>
    rw [loop, gives_bind_iff]
    constructor
    · rintro ⟨item, middle, first, gives⟩
      obtain ⟨items, rfl, length, rounds⟩ := ih.1 gives
      refine ⟨item :: items, ?_, congrArg Nat.succ length, .more first rounds⟩
      rw [List.reverse_cons, List.append_assoc, List.singleton_append]
    · rintro ⟨items, rfl, length, rounds⟩
      cases rounds with
      | none => cases length
      | @more _ middle _ item items first later =>
        refine ⟨item, middle, first, ih.2 ⟨items, ?_, Nat.succ.inj length, later⟩⟩
        rw [List.reverse_cons, List.append_assoc, List.singleton_append]

theorem gives_loop_nil_iff :
    ((loop round count []).run frame frames flag input).Gives items rest ↔
      items.length = count ∧ Rounds round frame frames flag input items rest := by
  rw [gives_loop_iff]
  constructor
  · rintro ⟨_, rfl, complete⟩
    exact complete
  · exact fun complete => ⟨items, rfl, complete⟩

/-- A loop completes some of its rounds, and unless these are all of them it ends with the failure
of the next one. -/
theorem exists_rounds (round : ReadProgram α) (frame : Bytes → Decoding Object) (frames : Nat)
    (flag : Bool) (count : Nat) (before : List α) (input : Bytes) :
    ∃ items left, Rounds round frame frames flag input items left ∧ items.length ≤ count ∧
      (items.length < count → ∃ error, (round.run frame frames flag left).result = .error error ∧
        ((loop round count before).run frame frames flag input).result = .error error) := by
  induction count generalizing before input with
  | zero =>
    exact ⟨[], input, .none input, Nat.le_refl 0, fun fewer => absurd fewer (Nat.lt_irrefl 0)⟩
  | succ count ih =>
    cases first : (round.run frame frames flag input).result with
    | error error =>
      exact ⟨[], input, .none input, Nat.zero_le _,
        fun _ => ⟨error, first, fails_bind_iff.2 (.inl first)⟩⟩
    | ok item =>
      have gives : (round.run frame frames flag input).Gives item _ := ⟨first, rfl⟩
      obtain ⟨items, left, rounds, most, breaks⟩ := ih (item :: before) _
      refine ⟨item :: items, left, .more gives rounds, Nat.succ_le_succ most, fun fewer => ?_⟩
      obtain ⟨error, failed, broken⟩ := breaks (Nat.lt_of_succ_lt_succ fewer)
      exact ⟨error, failed, fails_bind_iff.2 (.inr ⟨item, _, gives, broken⟩)⟩

theorem Costs.bounded (costs : Costs least fault round) (made : List α → Except CodingError Object)
    (count : Nat) (body : Bytes) :
    Bounded least fault round made frame frames flag count body
      (((loop round count []).run frame frames flag body).andThen fun items rest =>
        ⟨made items, rest, []⟩) := by
  obtain ⟨items, left, rounds, most, breaks⟩ := exists_rounds round frame frames flag count [] body
  have paid := costs.rounds rounds
  have stops (fewer : items.length < count) : ∃ error,
      (round.run frame frames flag left).result = .error error ∧
        (((loop round count []).run frame frames flag body).andThen fun items rest =>
          ⟨made items, rest, []⟩).result = .error error := by
    obtain ⟨error, failed, broken⟩ := breaks fewer
    exact ⟨error, failed, Decoding.result_andThen_error broken _⟩
  refine ⟨⟨items, left, rounds, most, paid, stops, fun complete => ?_⟩, fun gives => ?_,
    fun scarce => ?_⟩
  · have gives : ((loop round count []).run frame frames flag body).Gives items left :=
      gives_loop_nil_iff.2 ⟨complete, rounds⟩
    simp only [Decoding.andThen, gives.1, gives.2, and_self]
  · obtain ⟨all, middle, looped, result, rfl⟩ := Decoding.gives_andThen_iff.1 gives
    obtain ⟨length, completed⟩ := gives_loop_nil_iff.1 looped
    exact ⟨all, length, completed, result⟩
  · have fewer : items.length < count := by
      by_contra enough
      have complete : items.length = count := Nat.le_antisymm most (Nat.not_lt.1 enough)
      rw [complete] at paid
      omega
    obtain ⟨error, failed, broken⟩ := stops fewer
    exact ⟨error, costs.fails failed, broken⟩

end ReadProgram

/-! ## The loops of the codecs -/

theorem Varint.encode_ne_nil (value : UInt64) : encode value ≠ [] := by
  rw [encode]
  split
  · exact List.cons_ne_nil _ _
  · exact List.cons_ne_nil _ _

namespace ScalarKind

theorem encode_ne_nil (kind : ScalarKind) (value : kind.Carrier) : kind.encode value ≠ [] := by
  cases kind with
  | byte => exact List.cons_ne_nil _ _
  | bool => exact List.cons_ne_nil _ _
  | word16 => exact List.ne_nil_of_length_pos (by rw [encode, Bytes.length_bigEndian]; decide)
  | int32 => exact List.ne_nil_of_length_pos (by rw [encode, Bytes.length_bigEndian]; decide)
  | int64 => exact List.ne_nil_of_length_pos (by rw [encode, Bytes.length_bigEndian]; decide)
  | varint32 => exact Varint.encode_ne_nil _
  | varint64 => exact Varint.encode_ne_nil _
  | bytes => exact List.append_ne_nil_of_left_ne_nil (Varint.encode_ne_nil _) _
  | text => exact List.append_ne_nil_of_left_ne_nil (Varint.encode_ne_nil _) _

/-- A primitive value takes an octet at least. -/
theorem consumes (kind : ScalarKind) {input rest : Bytes} {value : kind.Carrier}
    (read : kind.decode input = ⟨.ok value, rest⟩) : 1 + rest.length ≤ input.length :=
  (Nat.add_le_add_right (List.length_pos_iff.2 (kind.encode_ne_nil value)) _).trans
    (kind.shortest read).2

end ScalarKind

namespace Codec

variable {frame : Bytes → Decoding Object} {frames : Nat} {flag : Bool}

open ReadProgram

namespace Maps

/-- One entry of a map. -/
def readEntry : ReadProgram (String × Bytes) := do
  let key ← ReadProgram.value .text
  let value ← ReadProgram.value .bytes
  pure (key, value)

theorem readEntries_eq_loop (count : Nat) (before : List (String × Bytes)) :
    readEntries count before = loop readEntry count before := by
  induction count generalizing before with
  | zero => rfl
  | succ count ih =>
    rw [readEntries, loop, readEntry, bind_assoc]
    simp only [ih, bind_assoc]
    rfl

/-- What a payload becomes once its entries are read. -/
def ofKind (kind : UInt8) (entries : List (String × Bytes)) : Except CodingError Object :=
  if kind = unorderedKind then .ok (.unorderedMap (.ofList entries))
  else if kind = sortedKind then .ok (.sortedMap (.ofList entries))
  else .error (.malformed (.mapKind kind))

/-- Behind the kind and the number the codec goes round. -/
theorem run_read_counted {number : Bytes} {count : Nat} (spells : Varint.Spells number count)
    (kind : UInt8) (body : Bytes) :
    read.run frame frames flag (kind :: (number ++ body)) =
      ((loop readEntry count []).run frame frames flag body).andThen fun entries rest =>
        ⟨ofKind kind entries, rest, []⟩ := by
  obtain ⟨value, same, counted⟩ := spells.decode
  rw [read, run_decoded_bind _ _ _ (Frame.decode_byte kind _), run_decoded_bind _ _ _ (counted _),
    same, run_bind, readEntries_eq_loop]
  congr 1
  funext entries rest
  unfold ofKind
  split
  · rfl
  · split <;> rfl

end Maps

namespace Commands

theorem readParameters_eq_loop (count : Nat) (before : List Bytes) :
    readParameters count before = loop (ReadProgram.value .bytes) count before := by
  induction count generalizing before with
  | zero => rfl
  | succ count ih =>
    rw [readParameters, loop]
    simp only [ih]

/-- Behind the id and the number the codec goes round. -/
theorem run_read_counted {number : Bytes} {count : Nat} (spells : Varint.Spells number count)
    (factory : CommandFactory) (id : UInt8) (body : Bytes) :
    (read factory).run frame frames flag (id :: (number ++ body)) =
      ((loop (ReadProgram.value .bytes) count []).run frame frames flag body).andThen
        fun parameters rest => ⟨(factory id parameters).map .command, rest, []⟩ := by
  obtain ⟨value, same, counted⟩ := spells.decode
  rw [read, run_decoded_bind _ _ _ (Frame.decode_byte id _), run_decoded_bind _ _ _ (counted _),
    same, run_bind, readParameters_eq_loop]
  congr 1
  funext parameters rest
  cases factory id parameters with
  | ok command => rfl
  | error error => rfl

end Commands

end Codec

end CodecRegistry
