import CodecRegistry.Proofs.BuiltIn

/-! What an object holds. A built-in codec writes an object by emitting octets and nesting the
objects that lie immediately inside, each once and in order. It does nothing else, so what goes
wrong with an object that it handles goes wrong in one of these. -/

namespace CodecRegistry

/-- The objects immediately inside an object, in the order in which they are written. -/
def Object.parts : Object → List Object
  | success value => [value]
  | transaction _ (some name) _ => [address name]
  | immortalEntry data _ => [key data]
  | mortalEntry entry => [key entry.key]
  | record _ fields => fields.filterMap fun
    | .object value => some value
    | _ => none
  | _ => []

/-- A program that nests these objects, one behind the other, and only emits octets besides. -/
inductive WriteProgram.Nests {bound : Nat} : List Object → WriteProgram bound → Prop
  | done : Nests [] .done
  | emit {octets : Bytes} {next : WriteProgram bound} {parts : List Object}
      (later : Nests parts next) : Nests parts (.emit octets next)
  | nest {value : Object} {deeper : value.span < bound} {next : WriteProgram bound}
      {parts : List Object} (later : Nests parts next) :
      Nests (value :: parts) (.nest value deeper next)

namespace Codec

open WriteProgram

variable {object : Object}

theorem Maps.nests_write (handled : object.type ∈ [.unorderedMap, .sortedMap]) :
    Nests object.parts (write object) := by
  cases object with
  | unorderedMap contents => exact .emit .done
  | sortedMap contents => exact .emit .done
  | _ => simp [Object.type] at handled

theorem Addresses.nests_write (handled : object.type = .address) :
    Nests object.parts (write object) := by
  cases object with
  | address name => exact .emit .done
  | _ => cases handled

theorem Transactions.nests_write (handled : object.type = .transaction) :
    Nests object.parts (write object) := by
  cases object with
  | transaction number owner remote =>
    cases owner with
    | none => exact .emit .done
    | some name => exact .emit (.nest .done)
  | _ => cases handled

theorem Packed.nests_write (handled : object.type = .packed) :
    Nests object.parts (write object) := by
  cases object with
  | packed value => exact .emit .done
  | _ => cases handled

theorem Successes.nests_write (handled : object.type = .success) :
    Nests object.parts (write object) := by
  cases object with
  | emptySuccess => exact .emit .done
  | success value => exact .emit (.nest .done)
  | _ => cases handled

theorem Failures.nests_write (handled : object.type = .failure) :
    Nests object.parts (write object) := by
  cases object with
  | failure => exact .done
  | _ => cases handled

theorem Ignored.nests_write (handled : object.type = .ignored) :
    Nests object.parts (write object) := by
  cases object with
  | ignored => exact .done
  | _ => cases handled

theorem Commands.nests_write (handled : object.type = .command) :
    Nests object.parts (write object) := by
  cases object with
  | command command => exact .emit .done
  | _ => cases handled

theorem Keys.nests_write (handled : object.type = .key) : Nests object.parts (write object) := by
  cases object with
  | key data => exact .emit .done
  | _ => cases handled

theorem ImmortalEntries.nests_write (handled : object.type = .immortalEntry) :
    Nests object.parts (write object) := by
  cases object with
  | immortalEntry data value => exact .nest (.emit .done)
  | _ => cases handled

theorem MortalEntries.nests_write (handled : object.type = .mortalEntry) :
    Nests object.parts (write object) := by
  cases object with
  | mortalEntry entry => exact .nest (.emit .done)
  | _ => cases handled

end Codec

namespace Binding

open Codec

/-- A built-in codec nests the parts of what it handles. -/
theorem nests_builtIn (services : Services) : ∀ binding ∈ builtIn services, ∀ object : Object,
    object.type ∈ binding.types → (binding.codec.write object).Nests object.parts := by
  have one {type : ObjectType} {codec : Codec}
      (nests : ∀ object : Object, object.type = type → (codec.write object).Nests object.parts)
      (object : Object) (handled : object.type ∈ [type]) :
      (codec.write object).Nests object.parts := nests object (List.mem_singleton.1 handled)
  simp only [builtIn, List.forall_mem_cons, List.not_mem_nil, false_implies, implies_true, and_true]
  exact ⟨fun _ => Maps.nests_write, one fun _ => Addresses.nests_write,
    one fun _ => Transactions.nests_write, one fun _ => Packed.nests_write,
    one fun _ => Successes.nests_write, one fun _ => Failures.nests_write,
    one fun _ => Ignored.nests_write, one fun _ => Commands.nests_write,
    one fun _ => ImmortalEntries.nests_write, one fun _ => MortalEntries.nests_write,
    one fun _ => Keys.nests_write⟩

end Binding

end CodecRegistry
