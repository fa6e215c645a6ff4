import CodecRegistry.FrameKey
import CodecRegistry.ObjectType
import CodecRegistry.Text.Utf8

/-! Why an object could not be written or read. The cause is kept as data: whether a connection is
closed, a call retried or a caller told to give up depends on it, through its category, and only
then on its wording. -/

namespace CodecRegistry

/-- What is wrong with bytes that were all there. -/
inductive Malformation where
  | booleanMarker (byte : UInt8)
  | text (fault : Utf8.Fault)
  | foreignId (id : UInt32)
  | mapKind (byte : UInt8)
  | recordKind (position : Nat)
  | trailing (count : Nat)
  | other (detail : String)
  deriving DecidableEq, Repr

def Malformation.detail : Malformation → String
  | booleanMarker byte => s!"invalid boolean marker {byte.toNat}"
  | text fault => s!"invalid utf-8 string: {fault.text}"
  | foreignId id => s!"foreign id {id.toNat} overlaps the reader namespace flag"
  | mapKind byte => s!"unknown map kind {byte.toNat}"
  | recordKind position => s!"unknown record kind {position}"
  | trailing count => s!"{count} trailing byte(s) after the object frame"
  | other detail => detail

/-- What could not be resolved while the node was stopping. -/
inductive Subject where
  | frame (key : FrameKey)
  | object (type : ObjectType)
  | named (text : String)
  deriving DecidableEq, Repr

def Subject.text : Subject → String
  | frame key => s!"type (id={key.text})"
  | object _ => "type " ++ ObjectType.placeholder
  | named text => text

inductive CodingError where
  | unknownFrame (key : FrameKey)
  | shuttingDown (subject : Subject)
  | notRunning (key : FrameKey)
  | noCodec (type : ObjectType)
  | wrongType (expected : String)
  | truncated (needed remaining : Nat)
  | varintOverflow (bits : Nat)
  | malformed (cause : Malformation)
  | nestingTooDeep (limit : Nat)
  | incompatibleVersion (expected found : UInt16)
  | codecFailed (codec reason : String)
  deriving DecidableEq, Repr

namespace CodingError

/-- What a caller can do about an error. -/
inductive Category where
  | retryable
  | nonRetryable
  | protocolViolation
  | cancelled
  deriving DecidableEq, Repr

def category : CodingError → Category
  | shuttingDown _ => .cancelled
  | notRunning _ => .retryable
  | unknownFrame _ | truncated .. | varintOverflow _ | malformed _ | incompatibleVersion ..
  | nestingTooDeep _ => .protocolViolation
  | noCodec _ | wrongType _ | codecFailed .. => .nonRetryable

def isShutdown (error : CodingError) : Bool := error.category = .cancelled

/-- The stable name under which monitoring counts an error. -/
def code : CodingError → String
  | unknownFrame _ => "marshal.type.unknown"
  | shuttingDown _ => "marshal.lifecycle.shutting_down"
  | notRunning _ => "marshal.lifecycle.not_running"
  | noCodec _ => "marshal.type.not_marshallable"
  | wrongType _ => "marshal.type.mismatch"
  | truncated .. => "marshal.stream.truncated"
  | varintOverflow _ => "marshal.stream.varint_overflow"
  | malformed _ => "marshal.stream.malformed"
  | nestingTooDeep _ => "marshal.stream.nesting_depth"
  | incompatibleVersion .. => "marshal.stream.version"
  | codecFailed .. => "marshal.codec.failure"

def message : CodingError → String
  | unknownFrame key =>
    s!"type of data read is unknown; id={key.text} is not amongst known reader indexes"
  | shuttingDown subject =>
    s!"cache manager is shutting down, so {subject.text} cannot be resolved; " ++
      "interruption being pushed up"
  | notRunning key =>
    "cache manager is either starting up or shutting down but the caller is not cancelled, " ++
      s!"so type (id={key.text}) cannot be resolved"
  | noCodec _ => "no externalizer registered for runtime type " ++ ObjectType.placeholder
  | wrongType expected => "externalizer expected a value of type `" ++ expected ++ "`"
  | truncated needed remaining =>
    s!"stream truncated: needed {needed} byte(s) but only {remaining} remain"
  | varintOverflow bits => s!"variable-length integer does not fit into {bits} bits"
  | malformed cause => s!"malformed payload: {cause.detail}"
  | nestingTooDeep limit => s!"nested object depth exceeds the limit of {limit}"
  | incompatibleVersion expected found =>
    s!"incompatible marshall version: expected {expected.toNat}, found {found.toNat}"
  | codecFailed codec _ => s!"externalizer {codec} failed"

/-- The text of the failure underneath, where an error passes one on. -/
def reason : CodingError → Option String
  | shuttingDown _ => some "calling context was cancelled while the node is stopping"
  | codecFailed _ reason => some reason
  | _ => none

end CodingError

end CodecRegistry
