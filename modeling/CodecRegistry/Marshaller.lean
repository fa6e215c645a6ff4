import CodecRegistry.CodingError

/-! A packed value remembers how to unpack itself, and codecs may be handed a way to make standalone
buffers. Both are data here: a format, which some registry carries out, or a fixed pair of answers
that needs none. -/

namespace CodecRegistry

inductive Marshaller where
  /-- Buffers of one version: the version in two octets, then one frame. -/
  | versioned (version : UInt16)
  /-- Packing always gives `buffer` and unpacking always fails with `refusal`. -/
  | fixed (buffer : Except CodingError Bytes) (refusal : CodingError)

namespace Marshaller

/-- The version of a node whose configuration names none. -/
def defaultVersion : UInt16 := 1

/-- Why a node without standalone buffers neither packs nor unpacks. -/
def unsupported : CodingError :=
  .codecFailed "spark_marshal::test_stubs::NoopMarshaller" "standalone buffers are not supported"

/-- For a node that needs no standalone buffers. -/
def unavailable : Marshaller := .fixed (.error unsupported) unsupported

end Marshaller

end CodecRegistry
