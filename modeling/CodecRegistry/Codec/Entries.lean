import CodecRegistry.Codec

/-! Cache keys, and the entries under them, which live forever or for a while. The key of an entry
is a frame of its own. -/

namespace CodecRegistry.Codec

namespace Keys

def implementation : String := "spark_marshal::exts::key::ByteArrayKeyExternalizer"

def id : UInt8 := 40

def write (object : Object) : WriteProgram object.span :=
  match object with
  | .key data => .emit (ScalarKind.bytes.encode data) .done
  | _ => refuse .key

def read : ReadProgram Object := do
  let data ← ReadProgram.value .bytes
  pure (.key data)

def codec : Codec := ⟨implementation, describe id [.key], write, read⟩

/-- Reads a frame that must hold a key. -/
def readNested : ReadProgram Bytes := do
  match ← ReadProgram.nested with
  | .key data => pure data
  | _ => .fail (.wrongType ObjectType.key.name)

end Keys

namespace ImmortalEntries

def implementation : String := "spark_marshal::exts::entries::ImmortalCacheEntryExternalizer"

def id : UInt8 := 20

def write (object : Object) : WriteProgram object.span :=
  match object with
  | .immortalEntry key value =>
    .nest (.key key) (Object.span_key_lt_immortal key value) <|
      .emit (ScalarKind.bytes.encode value) .done
  | _ => refuse .immortalEntry

def read : ReadProgram Object := do
  let key ← Keys.readNested
  let value ← ReadProgram.value .bytes
  pure (.immortalEntry key value)

def codec : Codec := ⟨implementation, describe id [.immortalEntry], write, read⟩

end ImmortalEntries

namespace MortalEntries

def implementation : String := "spark_marshal::exts::entries::MortalCacheEntryExternalizer"

def id : UInt8 := 21

def write (object : Object) : WriteProgram object.span :=
  match object with
  | .mortalEntry entry =>
    .nest (.key entry.key) (Object.span_key_lt_mortal entry.key entry) <|
      .emit (ScalarKind.bytes.encode entry.value ++ ScalarKind.int64.encode entry.created ++
        ScalarKind.int64.encode entry.lifespan) .done
  | _ => refuse .mortalEntry

def read : ReadProgram Object := do
  let key ← Keys.readNested
  let value ← ReadProgram.value .bytes
  let created ← ReadProgram.value .int64
  let lifespan ← ReadProgram.value .int64
  pure (.mortalEntry ⟨key, value, created, lifespan⟩)

def codec : Codec := ⟨implementation, describe id [.mortalEntry], write, read⟩

end MortalEntries

end CodecRegistry.Codec
