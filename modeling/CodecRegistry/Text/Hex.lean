import CodecRegistry.Bytes

/-! Octets as pairs of lower-case hexadecimal digits. -/

namespace CodecRegistry.Hex

def digit (value : Nat) : Char := "0123456789abcdef".toList.getD value '0'

def encode (bytes : Bytes) : String :=
  bytes.foldl (fun written byte =>
    (written.push (digit (byte.toNat / 16))).push (digit (byte.toNat % 16))) ""

def value? (char : Char) : Option UInt8 :=
  if '0' ≤ char ∧ char ≤ '9' then some (char.toNat - 48).toUInt8
  else if 'a' ≤ char ∧ char ≤ 'f' then some (char.toNat - 87).toUInt8
  else none

/-- Reads pairs of digits behind those read before, which stand in reverse. -/
def decodeFrom (before : Bytes) : List Char → Option Bytes
  | [] => some before.reverse
  | [_] => none
  | high :: low :: rest =>
    match value? high, value? low with
    | some high, some low => decodeFrom ((high * 16 + low) :: before) rest
    | _, _ => none

def decode? (text : String) : Option Bytes := decodeFrom [] text.toList

end CodecRegistry.Hex
