import CodecRegistry.Configuration
import CodecRegistry.Frame

/-! Objects outside any stream: a buffer of its own, which says in which version it was written, and
packed values, which hold such a buffer. The frames of a buffer are counted afresh. -/

namespace CodecRegistry

/-- The format that a configuration asks for. -/
def Configuration.marshaller (configuration : Configuration) : Marshaller :=
  .versioned configuration.version

namespace Marshaller

/-- The buffer of an object. -/
def pack (marshaller : Marshaller) (dispatch : Dispatch) (cancelled : Bool) (object : Object) :
    Except CodingError Bytes × List Event :=
  match marshaller with
  | fixed buffer _ => (buffer, [])
  | versioned version =>
    let frame := dispatch.encode cancelled object
    (frame.result.map fun () => ScalarKind.word16.encode version ++ frame.written, frame.log)

/-- The object of a buffer, which must hold one frame and nothing else. -/
def unpack (marshaller : Marshaller) (dispatch : Dispatch) (cancelled : Bool) (buffer : Bytes) :
    Except CodingError Object × List Event :=
  match marshaller with
  | fixed _ refusal => (.error refusal, [])
  | versioned version =>
    match ScalarKind.word16.decode buffer with
    | ⟨.error error, _⟩ => (.error error, [])
    | ⟨.ok found, frame⟩ =>
      if found = version then
        let decoding := dispatch.decode cancelled frame
        let result := decoding.result.bind fun object =>
          if decoding.rest = [] then .ok object
          else .error (.malformed (.trailing decoding.rest.length))
        (result, decoding.log)
      else (.error (.incompatibleVersion version found), [])

/-- Whether packing an object can begin. -/
def canPack (marshaller : Marshaller) (dispatch : Dispatch) (type : ObjectType) : Bool :=
  match marshaller with
  | fixed .. => false
  | versioned _ => dispatch.canWrite type

end Marshaller

namespace PackedValue

/-- Packs an object. -/
def ofObject (object : Object) (marshaller : Marshaller) (dispatch : Dispatch)
    (cancelled : Bool) : Except CodingError PackedValue × List Event :=
  let (buffer, log) := marshaller.pack dispatch cancelled object
  (buffer.map fun raw => ofRaw raw marshaller, log)

/-- Unpacks the object again. -/
def unpack (value : PackedValue) (dispatch : Dispatch) (cancelled : Bool) :
    Except CodingError Object × List Event :=
  value.marshaller.unpack dispatch cancelled value.raw

end PackedValue

end CodecRegistry
