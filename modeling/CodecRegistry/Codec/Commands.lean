import CodecRegistry.Codec

/-! Commands for other nodes: an id, the number of parameters, and the parameters. Whether a
command that was read is known is up to the factory. -/

namespace CodecRegistry.Codec.Commands

def implementation : String := "spark_marshal::exts::command::ReplicableCommandExternalizer"

def id : UInt8 := 17

def payload (command : RemoteCommand) : Bytes :=
  command.id :: Varint.encode (UInt64.ofNat command.parameters.length) ++
    command.parameters.flatMap ScalarKind.bytes.encode

def write (object : Object) : WriteProgram object.span :=
  match object with
  | .command command => .emit (payload command) .done
  | _ => refuse .command

/-- Reads `count` parameters behind those read before, which stand in reverse. -/
def readParameters : Nat → List Bytes → ReadProgram (List Bytes)
  | 0, before => pure before.reverse
  | count + 1, before => do
    let parameter ← ReadProgram.value .bytes
    readParameters count (parameter :: before)

def read (factory : CommandFactory) : ReadProgram Object := do
  let id ← ReadProgram.value .byte
  let count ← ReadProgram.value .varint64
  let parameters ← readParameters count.toNat []
  let command ← ReadProgram.ofExcept (factory id parameters)
  pure (.command command)

def codec (services : Services) : Codec :=
  ⟨implementation, describe id [.command], write, read services.commands⟩

end CodecRegistry.Codec.Commands
