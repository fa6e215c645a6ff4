import CodecRegistry.Event
import CodecRegistry.Object

/-! What a codec does when it reads is a program of stream reads. A program cannot reach around the
stream: it sees only the results of its own reads, failed ones included, the depth at which it runs,
the number of octets left and the state of the caller's token. So whatever holds of every program
holds of every codec. -/

namespace CodecRegistry

/-- The outcome of carrying a program out: its result, what it left and what it reported. -/
structure Decoding (α : Type) where
  result : Except CodingError α
  rest : Bytes
  log : List Event

inductive ReadProgram (α : Type) where
  | done (value : α)
  | fail (error : CodingError)
  | scalar (kind : ScalarKind) (next : Except CodingError kind.Carrier → ReadProgram α)
  | object (next : Except CodingError Object → ReadProgram α)
  | depth (next : Nat → ReadProgram α)
  | remaining (next : Nat → ReadProgram α)
  | cancelled (next : Bool → ReadProgram α)

namespace ReadProgram

variable {α β : Type}

def bind (program : ReadProgram α) (f : α → ReadProgram β) : ReadProgram β :=
  match program with
  | done value => f value
  | fail error => fail error
  | scalar kind next => scalar kind fun result => (next result).bind f
  | object next => object fun result => (next result).bind f
  | depth next => depth fun frames => (next frames).bind f
  | remaining next => remaining fun count => (next count).bind f
  | cancelled next => cancelled fun flag => (next flag).bind f

instance : Monad ReadProgram where
  pure := done
  bind := bind

def ofExcept : Except CodingError α → ReadProgram α
  | .ok value => done value
  | .error error => fail error

/-- Reads a primitive value; a failure ends the program. -/
def value (kind : ScalarKind) : ReadProgram kind.Carrier := scalar kind ofExcept

/-- Reads a nested frame; a failure ends the program. -/
def nested : ReadProgram Object := object ofExcept

/-- Turns the failure of a program into its result, so that reading can go on. -/
def recover (program : ReadProgram α) : ReadProgram (Except CodingError α) :=
  match program with
  | done value => done (.ok value)
  | fail error => done (.error error)
  | scalar kind next => scalar kind fun result => (next result).recover
  | object next => object fun result => (next result).recover
  | depth next => depth fun frames => (next frames).recover
  | remaining next => remaining fun count => (next count).recover
  | cancelled next => cancelled fun flag => (next flag).recover

/-- Carries a program out on the front of `input`. Nested frames are read by `frame`; `frames` of
them are open around the program. -/
def run (frame : Bytes → Decoding Object) (frames : Nat) (flag : Bool) :
    ReadProgram α → Bytes → Decoding α
  | done value, input => ⟨.ok value, input, []⟩
  | fail error, input => ⟨.error error, input, []⟩
  | scalar kind next, input =>
    let reading := kind.decode input
    run frame frames flag (next reading.result) reading.rest
  | object next, input =>
    let inner := frame input
    let outer := run frame frames flag (next inner.result) inner.rest
    ⟨outer.result, outer.rest, inner.log ++ outer.log⟩
  | depth next, input => run frame frames flag (next frames) input
  | remaining next, input => run frame frames flag (next input.length) input
  | cancelled next, input => run frame frames flag (next flag) input

end ReadProgram

end CodecRegistry
