import CodecRegistry.Event
import CodecRegistry.Object

/-! What a codec does when it writes an object is a program too: it emits octets and nests objects
that lie deeper, which is what `bound` says. Octets are out once they are emitted, so a program that
fails leaves the front of a frame behind. -/

namespace CodecRegistry

/-- The outcome of writing: whether it failed, what it wrote all the same and what it reported. -/
structure Encoding where
  result : Except CodingError Unit
  written : Bytes
  log : List Event

inductive WriteProgram (bound : Nat) where
  | done
  | fail (error : CodingError)
  | emit (octets : Bytes) (next : WriteProgram bound)
  | object (value : Object) (deeper : value.span < bound)
      (next : Except CodingError Unit → WriteProgram bound)
  | cancelled (next : Bool → WriteProgram bound)

namespace WriteProgram

variable {bound : Nat}

/-- Writes a nested frame and goes on, unless that failed. -/
def nest (value : Object) (deeper : value.span < bound) (next : WriteProgram bound) :
    WriteProgram bound :=
  object value deeper fun
    | .ok () => next
    | .error error => fail error

/-- Carries a program out. Nested objects are written by `frame`. -/
def run (frame : (value : Object) → value.span < bound → Encoding) (flag : Bool) :
    WriteProgram bound → Encoding
  | done => ⟨.ok (), [], []⟩
  | fail error => ⟨.error error, [], []⟩
  | emit octets next =>
    let later := run frame flag next
    ⟨later.result, octets ++ later.written, later.log⟩
  | object value deeper next =>
    let inner := frame value deeper
    let later := run frame flag (next inner.result)
    ⟨later.result, inner.written ++ later.written, inner.log ++ later.log⟩
  | cancelled next => run frame flag (next flag)

end WriteProgram

end CodecRegistry
