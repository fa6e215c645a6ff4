import CodecRegistry.Codec

/-! One codec carries both kinds of map. A payload is a byte for the kind, the number of entries,
and the entries; a payload that repeats a key means its last value. -/

namespace CodecRegistry.Codec.Maps

def implementation : String := "spark_marshal::exts::collections::MapExternalizer"

def id : UInt8 := 2

def unorderedKind : UInt8 := 0

def sortedKind : UInt8 := 1

def writeEntry (entry : String × Bytes) : Bytes :=
  ScalarKind.text.encode entry.1 ++ ScalarKind.bytes.encode entry.2

def payload (kind : UInt8) (entries : List (String × Bytes)) : Bytes :=
  kind :: Varint.encode (UInt64.ofNat entries.length) ++ entries.flatMap writeEntry

def write (object : Object) : WriteProgram object.span :=
  match object with
  | .unorderedMap contents => .emit (payload unorderedKind contents.entries) .done
  | .sortedMap contents => .emit (payload sortedKind contents.entries) .done
  | _ => .fail (.wrongType "HashMap<String, Bytes> or BTreeMap<String, Bytes>")

/-- Reads `count` entries behind those read before, which stand in reverse. -/
def readEntries : Nat → List (String × Bytes) → ReadProgram (List (String × Bytes))
  | 0, before => pure before.reverse
  | count + 1, before => do
    let key ← ReadProgram.value .text
    let value ← ReadProgram.value .bytes
    readEntries count ((key, value) :: before)

/-- The kind is looked at only when the entries have been read. -/
def read : ReadProgram Object := do
  let kind ← ReadProgram.value .byte
  let count ← ReadProgram.value .varint64
  let entries ← readEntries count.toNat []
  if kind = unorderedKind then pure (.unorderedMap (.ofList entries))
  else if kind = sortedKind then pure (.sortedMap (.ofList entries))
  else .fail (.malformed (.mapKind kind))

def codec : Codec :=
  ⟨implementation, describe id [.unorderedMap, .sortedMap], write, read⟩

end CodecRegistry.Codec.Maps
