import CodecRegistry.Codec

/-! A codec becomes reachable when it is bound to an id. The id decides the header of its frames and
the key under which readers find it. -/

namespace CodecRegistry

/-- The id of a codec, in one of the two namespaces. -/
inductive WireId where
  | internal (id : UInt8)
  | foreign (id : UInt32)
  deriving DecidableEq, Repr

namespace WireId

/-- The first byte of a frame. -/
def frameByte : WireId → UInt8
  | internal id => id
  | foreign _ => FrameKey.sentinel

/-- What every frame begins with. -/
def header : WireId → Bytes
  | internal id => [id]
  | foreign id => FrameKey.sentinel :: Varint.encode id.toUInt64

def key : WireId → FrameKey
  | internal id => .internal id
  | foreign id => .foreign id

/-- The number that was declared or configured. -/
def number : WireId → UInt32
  | internal id => id.toUInt32
  | foreign id => id

def isForeign : WireId → Bool
  | internal _ => false
  | foreign _ => true

def debugText : WireId → String
  | internal _ => "Internal"
  | foreign id => Quoted.named "Foreign" [("foreign_id", toString id.toNat)]

end WireId

structure Binding where
  id : WireId
  codec : Codec

namespace Binding

def key (binding : Binding) : FrameKey := binding.id.key

def implementation (binding : Binding) : String := binding.codec.implementation

/-- Bindings count as the same when their frames begin alike and one implementation writes them.
All foreign frames begin alike. -/
def sameAs (a b : Binding) : Bool :=
  a.id.frameByte = b.id.frameByte ∧ a.implementation = b.implementation

theorem sameAs_refl (binding : Binding) : binding.sameAs binding = true := by simp [sameAs]

def debugText (binding : Binding) : String :=
  Quoted.named "ExternalizerAdapter"
    [("id", toString binding.id.frameByte.toNat), ("kind", binding.id.debugText),
      ("implementation", binding.implementation)]

end Binding

end CodecRegistry
