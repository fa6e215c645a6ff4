/-! Every frame on the wire names the codec that reads it. The two namespaces of names, small
internal ids and wide foreign ids, share one 32-bit key space: the top bit tells them apart, so
equal numbers in both never meet. -/

namespace CodecRegistry

/-- The key under which the codec of a frame is looked up. -/
structure FrameKey where
  word : UInt32
  deriving DecidableEq, Repr, Hashable

namespace FrameKey

/-- The bit that is set in the key of every foreign id. -/
def foreignFlag : UInt32 := 0x80000000

/-- A foreign id may use every bit below the flag. -/
def largestForeignId : UInt32 := foreignFlag - 1

/-- The first byte of every foreign frame, hence no internal id. -/
def sentinel : UInt8 := 255

def internal (id : UInt8) : FrameKey := ⟨id.toUInt32⟩

def foreign (id : UInt32) : FrameKey := ⟨foreignFlag ||| id⟩

def isForeign (key : FrameKey) : Bool := key.word &&& foreignFlag != 0

/-- A foreign key shows its word as a signed number, and the id it stands for. -/
def text (key : FrameKey) : String :=
  if key.isForeign then
    s!"{key.word.toInt32.toInt} (foreign id {(key.word &&& ~~~foreignFlag).toNat})"
  else
    s!"{key.word.toNat}"

/-- The keys of a list in ascending order, each once. -/
def sorted (keys : List FrameKey) : List FrameKey :=
  (keys.mergeSort fun a b => a.word ≤ b.word).eraseDups

end FrameKey

end CodecRegistry
