import CodecRegistry.Bytes

/-! Texts travel as UTF-8. Bytes that are none are refused with the place of the first fault: a
sequence that no further byte could mend, or one that the input breaks off. -/

namespace CodecRegistry.Utf8

/-- The octets of a text. -/
def encode (text : String) : Bytes := text.toUTF8.data.toList

/-- Where bytes stop being UTF-8. A broken sequence has a length; one that the end of the input
cuts short has none. -/
structure Fault where
  index : Nat
  length : Option Nat
  deriving DecidableEq, Repr

def Fault.text (fault : Fault) : String :=
  match fault.length with
  | some length => s!"invalid utf-8 sequence of {length} bytes from index {fault.index}"
  | none => s!"incomplete utf-8 byte sequence from index {fault.index}"

/-- A character that has begun: where, how many of its bytes came, how many are owed, and the
range that the next one must lie in. -/
structure Pending where
  start : Nat
  seen : Nat
  owed : Nat
  low : UInt8
  high : UInt8

/-- What the first byte of a longer character asks of the bytes after it. The narrow ranges keep
out overlong forms, surrogates and numbers above the last code point. -/
def begin? (start : Nat) (lead : UInt8) : Option Pending :=
  if 0xC2 ≤ lead ∧ lead ≤ 0xDF then some ⟨start, 1, 1, 0x80, 0xBF⟩
  else if lead = 0xE0 then some ⟨start, 1, 2, 0xA0, 0xBF⟩
  else if lead = 0xED then some ⟨start, 1, 2, 0x80, 0x9F⟩
  else if 0xE1 ≤ lead ∧ lead ≤ 0xEF then some ⟨start, 1, 2, 0x80, 0xBF⟩
  else if lead = 0xF0 then some ⟨start, 1, 3, 0x90, 0xBF⟩
  else if lead = 0xF4 then some ⟨start, 1, 3, 0x80, 0x8F⟩
  else if 0xF1 ≤ lead ∧ lead ≤ 0xF3 then some ⟨start, 1, 3, 0x80, 0xBF⟩
  else none

/-- The first fault of bytes that begin at `position`, within the character `pending` if one has
begun. -/
def firstFault (position : Nat) (pending : Option Pending) : Bytes → Option Fault
  | [] => pending.map fun open_ => ⟨open_.start, none⟩
  | byte :: rest =>
    match pending with
    | none =>
      if byte < 0x80 then firstFault (position + 1) none rest
      else
        match begin? position byte with
        | none => some ⟨position, some 1⟩
        | some begun => firstFault (position + 1) (some begun) rest
    | some begun =>
      if begun.low ≤ byte ∧ byte ≤ begun.high then
        if begun.owed ≤ 1 then firstFault (position + 1) none rest
        else
          firstFault (position + 1)
            (some ⟨begun.start, begun.seen + 1, begun.owed - 1, 0x80, 0xBF⟩) rest
      else some ⟨begun.start, some begun.seen⟩

/-- The text that octets spell, or their first fault. -/
def decode (bytes : Bytes) : Except Fault String :=
  match String.fromUTF8? bytes.toByteArray with
  | some text => .ok text
  | none => .error ((firstFault 0 none bytes).getD ⟨0, none⟩)

end CodecRegistry.Utf8
