import CodecRegistry.Codec

/-! Node addresses, and transactions, which may name the node that began them. The address inside a
transaction is a frame of its own. -/

namespace CodecRegistry.Codec

namespace Addresses

def implementation : String := "spark_marshal::exts::transaction::NodeAddressExternalizer"

def id : UInt8 := 3

def write (object : Object) : WriteProgram object.span :=
  match object with
  | .address name => .emit (ScalarKind.text.encode name) .done
  | _ => refuse .address

def read : ReadProgram Object := do
  let name ← ReadProgram.value .text
  pure (.address name)

def codec : Codec := ⟨implementation, describe id [.address], write, read⟩

/-- Reads a frame that must hold an address. -/
def readNested : ReadProgram String := do
  match ← ReadProgram.nested with
  | .address name => pure name
  | _ => .fail (.wrongType ObjectType.address.name)

end Addresses

namespace Transactions

def implementation : String := "spark_marshal::exts::transaction::GlobalTransactionExternalizer"

def id : UInt8 := 5

def write (object : Object) : WriteProgram object.span :=
  match object with
  | .transaction number (some name) remote =>
    .emit (ScalarKind.varint64.encode number ++ ScalarKind.bool.encode true) <|
      .nest (.address name) (Object.span_owner_lt name number remote) .done
  | .transaction number none _ =>
    .emit (ScalarKind.varint64.encode number ++ ScalarKind.bool.encode false) .done
  | _ => refuse .transaction

/-- Whoever reads a transaction from a stream got it from another node. -/
def read : ReadProgram Object := do
  let number ← ReadProgram.value .varint64
  if ← ReadProgram.value .bool then
    let name ← Addresses.readNested
    pure (.transaction number (some name) true)
  else
    pure (.transaction number none true)

def codec : Codec := ⟨implementation, describe id [.transaction], write, read⟩

end Transactions

end CodecRegistry.Codec
