import CodecRegistry.Codec

/-! Packed values travel as their bytes and their hash. The reader believes the hash, and gives the
value the marshaller of its own registry. -/

namespace CodecRegistry.Codec.Packed

def implementation : String := "spark_marshal::exts::marshalled::MarshalledValueExternalizer"

def id : UInt8 := 9

def write (object : Object) : WriteProgram object.span :=
  match object with
  | .packed value =>
    .emit (ScalarKind.bytes.encode value.raw ++ ScalarKind.int32.encode value.hash.toInt32) .done
  | _ => refuse .packed

def read (marshaller : Marshaller) : ReadProgram Object := do
  let raw ← ReadProgram.value .bytes
  let hash ← ReadProgram.value .int32
  pure (.packed ⟨raw, hash.toUInt32, marshaller⟩)

def codec (services : Services) : Codec :=
  ⟨implementation, describe id [.packed], write, read services.marshaller⟩

end CodecRegistry.Codec.Packed
