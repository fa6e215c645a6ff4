import CodecRegistry.Reading

/-! Lengths, counts and foreign ids are written in groups of seven bits, the lowest group first; the
high bit of a byte says that another group follows. A reader accepts padded forms, but no more
groups than its width can hold and no group with bits above that width. -/

namespace CodecRegistry.Varint

/-- The largest value that fits into one group. -/
def groupMask : UInt8 := 0x7F

def continuation : UInt8 := 0x80

/-- The two widths at which numbers are read. -/
inductive Width where
  | w32
  | w64
  deriving DecidableEq, Repr

def Width.bits : Width → Nat
  | w32 => 32
  | w64 => 64

/-- The largest value of a width. -/
def Width.largest : Width → UInt64
  | w32 => 0xFFFFFFFF
  | w64 => 0xFFFFFFFFFFFFFFFF

theorem shiftRight_group_lt {value : UInt64} (h : ¬ value < 128) :
    (value >>> 7).toNat < value.toNat := by
  have large : 128 ≤ value.toNat := by
    simpa [UInt64.lt_iff_toNat_lt] using h
  rw [UInt64.toNat_shiftRight, show (7 : UInt64).toNat % 64 = 7 from rfl,
    Nat.shiftRight_eq_div_pow]
  omega

/-- The shortest form of a number. -/
def encode (value : UInt64) : Bytes :=
  if _ : value < 128 then [value.toUInt8]
  else (value.toUInt8 ||| continuation) :: encode (value >>> 7)
termination_by value.toNat
decreasing_by exact shiftRight_group_lt ‹_›

/-- The number of bits up to the highest one that is set; zero counts as one bit. -/
def significantBits (value : UInt64) : Nat := value.toNat.log2 + 1

/-- How many bytes `encode` writes, computed without writing them. -/
def encodedLength (value : UInt64) : Nat := (significantBits value + 6) / 7

/-- What the groups read so far add up to, and where the next one goes. -/
structure Partial where
  value : UInt64
  shift : UInt64
  deriving DecidableEq, Repr

inductive Step where
  | more (soFar : Partial)
  | finished (value : UInt64)
  | overflow
  deriving DecidableEq, Repr

/-- Takes in one byte. The group is compared before it is shifted, so no bit is ever lost. -/
def step (width : Width) (soFar : Partial) (byte : UInt8) : Step :=
  let group := (byte &&& groupMask).toUInt64
  if UInt64.ofNat width.bits ≤ soFar.shift ∨ width.largest >>> soFar.shift < group then .overflow
  else
    let value := soFar.value ||| (group <<< soFar.shift)
    if byte &&& continuation = 0 then .finished value
    else .more ⟨value, soFar.shift + 7⟩

/-- Reads on from the groups before. -/
def decodeFrom (width : Width) (soFar : Partial) : Bytes → Reading UInt64
  | [] => ⟨.error (.truncated 1 0), []⟩
  | byte :: rest =>
    match step width soFar byte with
    | .more soFar => decodeFrom width soFar rest
    | .finished value => ⟨.ok value, rest⟩
    | .overflow => ⟨.error (.varintOverflow width.bits), rest⟩

/-- Reads a number of at most the given width. A failed read has consumed the bytes it looked
at. -/
def decode (width : Width) (bytes : Bytes) : Reading UInt64 := decodeFrom width ⟨0, 0⟩ bytes

end CodecRegistry.Varint
