import CodecRegistry.SetupError
import CodecRegistry.Text.Quoted

/-! What a registry reports of its work. Events are data, each with a level, a message and named
texts, so that whoever runs a registry decides where they go. -/

namespace CodecRegistry

inductive Event where
  | writerReplaced (type : ObjectType) (previous current : String)
  | registered (type : ObjectType) (implementation : String) (key : FrameKey)
  | readersListed (readers : List (FrameKey × String))
  | writersListed (implementations : List String)
  | started (cluster : String) (readers writers : Nat)
  | stopped
  | optionalSkipped (declaration : String) (error : SetupError)
  | unregistered (type : ObjectType)
  | noWriter (type : ObjectType)
  | unknownReader (key : FrameKey) (known : List (FrameKey × String))
  deriving DecidableEq, Repr

namespace Event

inductive Level where
  | trace
  | debug
  | info
  deriving DecidableEq, Repr

namespace Level

def severity : Level → Nat
  | trace => 0
  | debug => 1
  | info => 2

def text : Level → String
  | trace => "TRACE"
  | debug => "DEBUG"
  | info => "INFO"

end Level

def level : Event → Level
  | registered .. | readersListed _ | writersListed _ | noWriter _ | unknownReader .. => .trace
  | writerReplaced .. | stopped | optionalSkipped .. | unregistered _ => .debug
  | started .. => .info

def message : Event → String
  | writerReplaced .. => "writer entry replaced by a later externalizer"
  | registered .. => "registered externalizer"
  | readersListed _ => "reader index table after start"
  | writersListed _ => "writer index table after start"
  | started .. => "externalizer table started"
  | stopped => "externalizer table stopped"
  | optionalSkipped .. => "optional externalizer skipped"
  | unregistered _ => "externalizer type unregistered"
  | noWriter _ => "no externalizer registered for runtime type"
  | unknownReader .. => "unknown reader index"

/-- The readers of a registry, by key. -/
def readersText (readers : List (FrameKey × String)) : String :=
  let ascending := readers.mergeSort fun a b => a.1.word ≤ b.1.word
  Quoted.braced
    (ascending.map fun (key, name) => toString key.word.toNat ++ ": " ++ Quoted.text name)

/-- The implementations of all writers, sorted so that the text does not depend on their order. -/
def writersText (implementations : List String) : String :=
  Quoted.bracketed ((implementations.mergeSort fun a b => a ≤ b).map Quoted.text)

def fields : Event → List (String × String)
  | writerReplaced type previous current =>
    [("type_name", type.name), ("previous", previous), ("current", current)]
  | registered type implementation key =>
    [("type_name", type.name), ("externalizer", implementation), ("reader_index", key.text)]
  | readersListed readers => [("readers", readersText readers)]
  | writersListed implementations => [("writers", writersText implementations)]
  | started cluster readers writers =>
    [("cluster", cluster), ("readers", toString readers), ("writers", toString writers)]
  | stopped => []
  | optionalSkipped declaration error =>
    [("externalizer", declaration), ("error", error.message?.getD "")]
  | unregistered type => [("type_name", type.name)]
  | noWriter _ => [("type_id", ObjectType.placeholder)]
  | unknownReader key known => [("reader_index", key.text), ("known", readersText known)]

/-- The events of a log that a reader of level `least` sees. -/
def visible (least : Level) (log : List Event) : List Event :=
  log.filter fun event => least.severity ≤ event.level.severity

end Event

end CodecRegistry
