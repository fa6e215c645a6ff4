import CodecRegistry.ReadProgram
import CodecRegistry.WriteProgram

/-! A codec writes and reads the objects of the types that it handles. Which code it runs is its
implementation, known by name; two instances of one implementation may still differ in what they
declare. -/

namespace CodecRegistry

/-- A type that a codec handles, given outright or by a name that the catalog resolves. -/
inductive HandledType where
  | exact (type : ObjectType)
  | named (name : String)
  deriving DecidableEq, Repr

/-- What a codec says about itself. -/
structure Descriptor where
  id : Option Int32
  types : List HandledType
  deriving DecidableEq

structure Codec where
  implementation : String
  descriptor : Descriptor
  write : (object : Object) → WriteProgram object.span
  read : ReadProgram Object

/-- What a registry hands to the codecs that it makes. -/
structure Services where
  commands : CommandFactory
  marshaller : Marshaller

/-- For codecs made outside any registry. -/
def Services.bare : Services := ⟨CommandFactory.asGiven, Marshaller.unavailable⟩

/-- A codec that is made once its services are known. -/
abbrev CodecFactory := Services → Codec

namespace Codec

/-- A built-in codec handles fixed types under a fixed id. -/
def describe (id : UInt8) (types : List ObjectType) : Descriptor :=
  ⟨some (Int32.ofNat id.toNat), types.map .exact⟩

/-- Refuses an object because another type is handled. -/
def refuse {bound : Nat} (type : ObjectType) : WriteProgram bound := .fail (.wrongType type.name)

end Codec

end CodecRegistry
