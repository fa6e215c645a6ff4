import CodecRegistry.Codec

/-! What a node answers to a command: success, with or without an object, failure, or that the
command was not for it. The last two have no payload at all. -/

namespace CodecRegistry.Codec

namespace Successes

def implementation : String := "spark_marshal::exts::responses::SuccessfulResponseExternalizer"

def id : UInt8 := 13

def write (object : Object) : WriteProgram object.span :=
  match object with
  | .success value =>
    .emit (ScalarKind.bool.encode true) (.nest value (Object.span_lt_success value) .done)
  | .emptySuccess => .emit (ScalarKind.bool.encode false) .done
  | _ => refuse .success

def read : ReadProgram Object := do
  if ← ReadProgram.value .bool then
    let value ← ReadProgram.nested
    pure (.success value)
  else
    pure .emptySuccess

def codec : Codec := ⟨implementation, describe id [.success], write, read⟩

end Successes

namespace Failures

def implementation : String := "spark_marshal::exts::responses::UnsuccessfulResponseExternalizer"

def id : UInt8 := 14

def write (object : Object) : WriteProgram object.span :=
  match object with
  | .failure => .done
  | _ => refuse .failure

def codec : Codec := ⟨implementation, describe id [.failure], write, pure .failure⟩

end Failures

namespace Ignored

def implementation : String := "spark_marshal::exts::responses::RequestIgnoredResponseExternalizer"

def id : UInt8 := 15

def write (object : Object) : WriteProgram object.span :=
  match object with
  | .ignored => .done
  | _ => refuse .ignored

def codec : Codec := ⟨implementation, describe id [.ignored], write, pure .ignored⟩

end Ignored

end CodecRegistry.Codec
