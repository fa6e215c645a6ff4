import CodecRegistry.Marshaller
import CodecRegistry.Scalar
import CodecRegistry.SortedMap
import CodecRegistry.Text.Quoted

/-! The objects that nodes exchange: the built-in ones, and records of application types. A frame
may hold further frames; `Object.span` counts how deep they lie, and a codec may only nest objects
that lie deeper than the one it writes. -/

namespace CodecRegistry

/-- A command that is carried out on another node, with its parameters already written. -/
structure RemoteCommand where
  id : UInt8
  parameters : List Bytes
  deriving DecidableEq, Repr

/-- Rebuilds a command from what a frame carried, or refuses it. -/
abbrev CommandFactory := UInt8 → List Bytes → Except CodingError RemoteCommand

namespace CommandFactory

/-- Rebuilds every command as it was given. -/
def asGiven : CommandFactory := fun id parameters => .ok ⟨id, parameters⟩

/-- Refuses commands whose id is not below `limit`. -/
def below (limit : UInt8) (name : String) : CommandFactory := fun id parameters =>
  if id < limit then .ok ⟨id, parameters⟩
  else .error (.codecFailed name s!"unknown command id {id.toNat}")

end CommandFactory

/-- An object kept in its packed form. The hash travels with the bytes. -/
structure PackedValue where
  raw : Bytes
  hash : UInt32
  marshaller : Marshaller

namespace PackedValue

/-- The hash of packed bytes, equal on every node. -/
def contentHash (raw : Bytes) : UInt32 :=
  raw.foldl (fun hash byte => hash * 31 + byte.toUInt32) 1

def ofRaw (raw : Bytes) (marshaller : Marshaller) : PackedValue :=
  ⟨raw, contentHash raw, marshaller⟩

/-- Packed values are equal when their bytes are. -/
def sameAs (a b : PackedValue) : Bool := a.raw = b.raw

def debugText (value : PackedValue) : String :=
  Quoted.named "MarshalledValue"
    [("len", toString value.raw.length), ("hash", toString value.hash.toNat)]

end PackedValue

/-- A cache entry that lives for a while. Times are in milliseconds; a negative lifespan is
endless. -/
structure MortalEntry where
  key : Bytes
  value : Bytes
  created : Int64
  lifespan : Int64
  deriving DecidableEq

/-- An end beyond the range of time counts as the last moment of it. -/
def MortalEntry.isExpired (entry : MortalEntry) (now : Int64) : Bool :=
  0 ≤ entry.lifespan ∧
    min (entry.created.toInt + entry.lifespan.toInt) Int64.maxValue.toInt ≤ now.toInt

mutual

inductive Object where
  | unorderedMap (contents : FiniteMap String Bytes)
  | sortedMap (contents : SortedMap)
  | address (name : String)
  | transaction (id : UInt64) (owner : Option String) (remote : Bool)
  | packed (value : PackedValue)
  | emptySuccess
  | success (value : Object)
  | failure
  | ignored
  | command (command : RemoteCommand)
  | key (data : Bytes)
  | immortalEntry (key value : Bytes)
  | mortalEntry (entry : MortalEntry)
  | record (typeName : String) (fields : List Field)

/-- A part of a record. Besides what a payload carries, a codec may note what it saw while it was
reading: how deep the frame lay, what was left, and how an optional object turned out. -/
inductive Field where
  | scalar (value : Scalar)
  | object (value : Object)
  | recovered (value : Object)
  | failed (error : CodingError)
  | depth (frames : Nat)
  | remaining (count : Nat)
  | cancelled (flag : Bool)

end

namespace Object

/-- The runtime type, under which the codec of an object is looked up. -/
def type : Object → ObjectType
  | unorderedMap _ => .unorderedMap
  | sortedMap _ => .sortedMap
  | address _ => .address
  | transaction .. => .transaction
  | packed _ => .packed
  | emptySuccess | success _ => .success
  | failure => .failure
  | ignored => .ignored
  | command _ => .command
  | key _ => .key
  | immortalEntry .. => .immortalEntry
  | mortalEntry _ => .mortalEntry
  | record typeName _ => .application typeName

end Object

mutual

/-- How many frames lie one inside the other when an object is written, its own included. -/
def Object.span : Object → Nat
  | .success value => value.span + 1
  | .transaction _ (some _) _ => 2
  | .immortalEntry .. => 2
  | .mortalEntry _ => 2
  | .record _ fields => Field.spanAll fields + 1
  | _ => 1

/-- Only an object among the fields is written as a frame. -/
def Field.span : Field → Nat
  | .object value => value.span
  | _ => 0

def Field.spanAll : List Field → Nat
  | [] => 0
  | field :: rest => max field.span (Field.spanAll rest)

end

theorem Field.span_head_lt {bound : Nat} {field : Field} {rest : List Field}
    (h : Field.spanAll (field :: rest) < bound) : field.span < bound :=
  Nat.lt_of_le_of_lt (Nat.le_max_left _ _) h

theorem Field.spanAll_tail_lt {bound : Nat} {field : Field} {rest : List Field}
    (h : Field.spanAll (field :: rest) < bound) : Field.spanAll rest < bound :=
  Nat.lt_of_le_of_lt (Nat.le_max_right _ _) h

theorem Field.span_le_spanAll {field : Field} {fields : List Field} (h : field ∈ fields) :
    field.span ≤ Field.spanAll fields := by
  induction fields with
  | nil => simp at h
  | cons head rest ih =>
    rcases List.mem_cons.1 h with rfl | later
    · simp only [Field.spanAll]; omega
    · have := ih later
      simp only [Field.spanAll]; omega

namespace Object

/-! What is nested lies deeper than what holds it. -/

theorem span_lt_success (value : Object) : value.span < (success value).span :=
  Nat.lt_succ_self _

theorem span_owner_lt (name : String) (id : UInt64) (remote : Bool) :
    (address name).span < (transaction id (some name) remote).span :=
  Nat.lt_succ_self _

theorem span_key_lt_immortal (data value : Bytes) :
    (key data).span < (immortalEntry data value).span :=
  Nat.lt_succ_self _

theorem span_key_lt_mortal (data : Bytes) (entry : MortalEntry) :
    (key data).span < (mortalEntry entry).span :=
  Nat.lt_succ_self _

theorem spanAll_lt_record (typeName : String) (fields : List Field) :
    Field.spanAll fields < (record typeName fields).span :=
  Nat.lt_succ_self _

/-- Responses nested in each other, the innermost with or without an object. -/
def responses : Nat → Option Object → Object
  | 0, some value => value
  | 0, none | 1, none => emptySuccess
  | depth + 1, value => success (responses depth value)

/-- How many responses are nested in each other, and what the innermost carries. -/
def unwrap : Object → Nat × Option Object
  | success value =>
    match value with
    | success _ | emptySuccess => let (depth, inner) := value.unwrap; (depth + 1, inner)
    | _ => (1, some value)
  | emptySuccess => (1, none)
  | object => (0, some object)

/-- Whether a response carries an object of the given type. -/
def carries (type : ObjectType) : Object → Except CodingError Bool
  | success value => .ok (value.type = type)
  | emptySuccess => .ok false
  | _ => .error (.wrongType ObjectType.success.name)

/-- The object itself if it is of the given type. -/
def expect (type : ObjectType) (object : Object) : Except CodingError Object :=
  if object.type = type then .ok object else .error (.wrongType type.name)

/-- The packed value that an object is. -/
def asPacked : Object → Except CodingError PackedValue
  | packed value => .ok value
  | _ => .error (.wrongType ObjectType.packed.name)

/-- The short text of an object in a log, for those that have one. -/
def debugText? : Object → Option String
  | packed value => some value.debugText
  | emptySuccess => some (Quoted.named "SuccessfulResponse" [("has_value", Quoted.flag false)])
  | success _ => some (Quoted.named "SuccessfulResponse" [("has_value", Quoted.flag true)])
  | _ => none

end Object

end CodecRegistry
