import CodecRegistry.Varint

/-! The primitive values of a payload: how each kind is written, and how it is read back. -/

namespace CodecRegistry

inductive ScalarKind where
  | byte
  | bool
  | word16
  | int32
  | int64
  | varint32
  | varint64
  | bytes
  | text
  deriving DecidableEq, Repr

namespace ScalarKind

/-- The values of a kind. -/
abbrev Carrier : ScalarKind → Type
  | byte => UInt8
  | bool => Bool
  | word16 => UInt16
  | int32 => Int32
  | int64 => Int64
  | varint32 => UInt32
  | varint64 => UInt64
  | bytes => Bytes
  | text => String

instance (kind : ScalarKind) : DecidableEq kind.Carrier := by
  cases kind <;> exact inferInstance

end ScalarKind

/-- Octets behind their number. -/
def writeSized (bytes : Bytes) : Bytes := Varint.encode (UInt64.ofNat bytes.length) ++ bytes

/-- Reads a count and that many octets. The count is only compared with what is left, so a hostile
one costs nothing. -/
def readSized (bytes : Bytes) : Reading Bytes :=
  (Varint.decode .w64 bytes).andThen fun count rest => Reading.take count.toNat rest

/-- Reads `width` octets as one number, the most significant first. -/
def readFixed (width : Nat) (bytes : Bytes) : Reading Nat :=
  (Reading.take width bytes).map Bytes.ofBigEndian

def readBool (bytes : Bytes) : Reading Bool :=
  (readFixed 1 bytes).andThen fun marker rest =>
    match marker with
    | 0 => ⟨.ok false, rest⟩
    | 1 => ⟨.ok true, rest⟩
    | _ => ⟨.error (.malformed (.booleanMarker (UInt8.ofNat marker))), rest⟩

def readText (bytes : Bytes) : Reading String :=
  (readSized bytes).andThen fun octets rest =>
    match Utf8.decode octets with
    | .ok text => ⟨.ok text, rest⟩
    | .error fault => ⟨.error (.malformed (.text fault)), rest⟩

namespace ScalarKind

def encode : (kind : ScalarKind) → kind.Carrier → Bytes
  | byte, value => [value]
  | bool, value => [if value then 1 else 0]
  | word16, value => Bytes.bigEndian 2 value.toNat
  | int32, value => Bytes.bigEndian 4 value.toUInt32.toNat
  | int64, value => Bytes.bigEndian 8 value.toUInt64.toNat
  | varint32, value => Varint.encode value.toUInt64
  | varint64, value => Varint.encode value
  | bytes, value => writeSized value
  | text, value => writeSized (Utf8.encode value)

def decode : (kind : ScalarKind) → Bytes → Reading kind.Carrier
  | byte, input => (readFixed 1 input).map UInt8.ofNat
  | bool, input => readBool input
  | word16, input => (readFixed 2 input).map UInt16.ofNat
  | int32, input => (readFixed 4 input).map fun word => (UInt32.ofNat word).toInt32
  | int64, input => (readFixed 8 input).map fun word => (UInt64.ofNat word).toInt64
  | varint32, input => (Varint.decode .w32 input).map UInt64.toUInt32
  | varint64, input => Varint.decode .w64 input
  | bytes, input => readSized input
  | text, input => readText input

end ScalarKind

/-- A primitive value together with its kind. -/
structure Scalar where
  kind : ScalarKind
  value : kind.Carrier
  deriving DecidableEq

def Scalar.encode (scalar : Scalar) : Bytes := scalar.kind.encode scalar.value

end CodecRegistry
