import CodecRegistry.CodingError

/-! The outcome of one read from the front of a byte string, and the two ways to go on from it. A
failed read also says what it left, because a caller may read on from there. -/

namespace CodecRegistry

structure Reading (α : Type) where
  result : Except CodingError α
  rest : Bytes

namespace Reading

variable {α β : Type}

/-- Goes on with what was read, or stops at the failure. -/
def andThen (reading : Reading α) (next : α → Bytes → Reading β) : Reading β :=
  match reading with
  | ⟨.ok value, rest⟩ => next value rest
  | ⟨.error error, rest⟩ => ⟨.error error, rest⟩

def map (f : α → β) (reading : Reading α) : Reading β := ⟨reading.result.map f, reading.rest⟩

/-- Exactly `count` octets; with fewer left nothing is consumed. -/
def take (count : Nat) (bytes : Bytes) : Reading Bytes :=
  match bytes.split? count with
  | some (front, rest) => ⟨.ok front, rest⟩
  | none => ⟨.error (.truncated count bytes.length), bytes⟩

end Reading

end CodecRegistry
