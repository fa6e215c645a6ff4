import CodecRegistry.Proofs.BuiltIn
import CodecRegistry.Proofs.Payload

/-! The built-in codecs read by putting reads together: a primitive value or a nested frame at a
time, and what was read decides how it goes on. So what holds of single reads, and of one program
behind another, holds of all of them. -/

namespace CodecRegistry

namespace ReadProgram

/-- A property of programs that every program has which is put together from single reads. -/
structure Inherited (P : (α : Type) → ReadProgram α → Prop) : Prop where
  done : ∀ {α : Type} (value : α), P α (done value)
  fail : ∀ {α : Type} (error : CodingError), P α (fail error)
  value : ∀ kind, P kind.Carrier (value kind)
  nested : P Object nested
  bind : ∀ {α β : Type} {program : ReadProgram α} {f : α → ReadProgram β},
    P α program → (∀ value, P β (f value)) → P β (program >>= f)

end ReadProgram

namespace Codec

open ReadProgram

variable {P : (α : Type) → ReadProgram α → Prop}

theorem Maps.inherits_readEntries (inherited : Inherited P) (count : Nat)
    (before : List (String × Bytes)) : P _ (readEntries count before) := by
  induction count generalizing before with
  | zero => exact inherited.done _
  | succ count ih =>
    refine inherited.bind (inherited.value .text) fun key => ?_
    exact inherited.bind (inherited.value .bytes) fun value => ih _

theorem Maps.inherits_read (inherited : Inherited P) : P _ read := by
  refine inherited.bind (inherited.value .byte) fun kind => ?_
  refine inherited.bind (inherited.value .varint64) fun count => ?_
  refine inherited.bind (inherits_readEntries inherited _ _) fun entries => ?_
  split
  · exact inherited.done _
  · split
    · exact inherited.done _
    · exact inherited.fail _

theorem Addresses.inherits_readNested (inherited : Inherited P) : P _ readNested := by
  rw [readNested_eq]
  refine inherited.bind inherited.nested fun object => ?_
  cases object with
  | address name => exact inherited.done _
  | _ => exact inherited.fail _

theorem Transactions.inherits_read (inherited : Inherited P) : P _ read := by
  refine inherited.bind (inherited.value .varint64) fun number => ?_
  refine inherited.bind (inherited.value .bool) fun owned => ?_
  cases owned with
  | true => exact inherited.bind (Addresses.inherits_readNested inherited) fun _ => inherited.done _
  | false => exact inherited.done _

theorem Packed.inherits_read (inherited : Inherited P) (marshaller : Marshaller) :
    P _ (read marshaller) := by
  refine inherited.bind (inherited.value .bytes) fun raw => ?_
  exact inherited.bind (inherited.value .int32) fun hash => inherited.done _

theorem Successes.inherits_read (inherited : Inherited P) : P _ read := by
  refine inherited.bind (inherited.value .bool) fun carrying => ?_
  cases carrying with
  | true => exact inherited.bind inherited.nested fun _ => inherited.done _
  | false => exact inherited.done _

theorem Commands.inherits_readParameters (inherited : Inherited P) (count : Nat)
    (before : List Bytes) : P _ (readParameters count before) := by
  induction count generalizing before with
  | zero => exact inherited.done _
  | succ count ih => exact inherited.bind (inherited.value .bytes) fun _ => ih _

theorem Commands.inherits_read (inherited : Inherited P) (factory : CommandFactory) :
    P _ (read factory) := by
  refine inherited.bind (inherited.value .byte) fun id => ?_
  refine inherited.bind (inherited.value .varint64) fun count => ?_
  refine inherited.bind (inherits_readParameters inherited _ _) fun parameters => ?_
  -- The factory's answer is a program without reads.
  cases factory id parameters with
  | ok command => exact inherited.bind (inherited.done command) fun _ => inherited.done _
  | error error => exact inherited.bind (inherited.fail error) fun _ => inherited.done _

theorem Keys.inherits_readNested (inherited : Inherited P) : P _ readNested := by
  rw [readNested_eq]
  refine inherited.bind inherited.nested fun object => ?_
  cases object with
  | key data => exact inherited.done _
  | _ => exact inherited.fail _

theorem ImmortalEntries.inherits_read (inherited : Inherited P) : P _ read := by
  refine inherited.bind (Keys.inherits_readNested inherited) fun key => ?_
  exact inherited.bind (inherited.value .bytes) fun value => inherited.done _

theorem MortalEntries.inherits_read (inherited : Inherited P) : P _ read := by
  refine inherited.bind (Keys.inherits_readNested inherited) fun key => ?_
  refine inherited.bind (inherited.value .bytes) fun value => ?_
  refine inherited.bind (inherited.value .int64) fun created => ?_
  exact inherited.bind (inherited.value .int64) fun lifespan => inherited.done _

theorem inherits_builtIn (inherited : Inherited P) (services : Services) :
    ∀ declaration ∈ Declaration.builtIn, P _ (declaration.make services).read := by
  simp only [Declaration.builtIn, List.forall_mem_cons, List.not_mem_nil, false_implies,
    implies_true, and_true]
  exact ⟨Maps.inherits_read inherited,
    inherited.bind (inherited.value .text) fun _ => inherited.done _,
    Transactions.inherits_read inherited, Packed.inherits_read inherited _,
    Successes.inherits_read inherited, inherited.done _, inherited.done _,
    Commands.inherits_read inherited _, ImmortalEntries.inherits_read inherited,
    MortalEntries.inherits_read inherited,
    inherited.bind (inherited.value .bytes) fun _ => inherited.done _⟩

end Codec

/-- The built-in codecs, wherever they are bound. -/
theorem Binding.inherits_builtIn {P : (α : Type) → ReadProgram α → Prop}
    (inherited : ReadProgram.Inherited P) (services : Services) :
    ∀ binding ∈ builtIn services, P _ binding.codec.read := by
  have codecs : (builtIn services).map codec =
      Declaration.builtIn.map fun declaration => declaration.make services := rfl
  intro binding mem
  have listed := List.mem_map_of_mem (f := codec) mem
  rw [codecs] at listed
  obtain ⟨declaration, known, same⟩ := List.mem_map.1 listed
  rw [← same]
  exact Codec.inherits_builtIn inherited services declaration known

end CodecRegistry
