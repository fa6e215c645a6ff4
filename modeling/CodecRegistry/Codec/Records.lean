import CodecRegistry.Codec

/-! Codecs for application records that are described by data: which record types, in which order,
and which fields each payload holds. With more than one type a payload begins with the position of
its type. -/

namespace CodecRegistry

/-- What a record codec reads into a field. The last three consume nothing. -/
inductive FieldKind where
  | scalar (kind : ScalarKind)
  | object
  | attempt
  | depth
  | remaining
  | cancelled
  deriving DecidableEq, Repr

namespace Field

/-- Reads one field. A failed attempt is a field too, and reading goes on after it. -/
def read : FieldKind → ReadProgram Field
  | .scalar kind => do pure (.scalar ⟨kind, ← ReadProgram.value kind⟩)
  | .object => do pure (.object (← ReadProgram.nested))
  | .attempt => .object fun
    | .ok value => pure (.recovered value)
    | .error error => pure (.failed error)
  | .depth => .depth fun frames => pure (.depth frames)
  | .remaining => .remaining fun count => pure (.remaining count)
  | .cancelled => .cancelled fun flag => pure (.cancelled flag)

/-- Reads fields in order up to the first failure. -/
def readAll : List FieldKind → ReadProgram (List Field)
  | [] => pure []
  | kind :: rest => do
    let field ← read kind
    let fields ← readAll rest
    pure (field :: fields)

/-- Reads fields in order, failures included, and notes how much was left after each. -/
def probe : List FieldKind → ReadProgram (List (Except CodingError Field × Nat))
  | [] => pure []
  | kind :: rest => do
    let result ← (read kind).recover
    let left ← ReadProgram.remaining pure
    let later ← probe rest
    pure ((result, left) :: later)

/-- Writes fields in order. What a reader only noted is not written. -/
def writeAll {bound : Nat} : (fields : List Field) → spanAll fields < bound → WriteProgram bound
  | [], _ => .done
  | .scalar value :: rest, deeper => .emit value.encode (writeAll rest (spanAll_tail_lt deeper))
  | .object value :: rest, deeper =>
    .nest value (span_head_lt deeper) (writeAll rest (spanAll_tail_lt deeper))
  | _ :: rest, deeper => writeAll rest (spanAll_tail_lt deeper)

end Field

namespace Codec

structure RecordLayout where
  implementation : String
  descriptor : Descriptor
  typeNames : List String
  fields : List FieldKind
  /-- Why every write and every read fails, if they do. -/
  failure : Option String

namespace RecordLayout

/-- Whether payloads say which of the record types they hold. -/
def isTagged (layout : RecordLayout) : Bool := 1 < layout.typeNames.length

def position? (layout : RecordLayout) (type : ObjectType) : Option Nat :=
  layout.typeNames.findIdx? fun name => type = .application name

/-- Of several types the last is the one that a refusal names. -/
def writeKnown (layout : RecordLayout) (object : Object) : WriteProgram object.span :=
  match layout.position? object.type, object with
  | some position, .record typeName fields =>
    .emit (if layout.isTagged then [UInt8.ofNat position] else [])
      (Field.writeAll fields (Object.spanAll_lt_record typeName fields))
  | _, _ =>
    match layout.typeNames.getLast? with
    | some name => refuse (.application name)
    | none => .done

def write (layout : RecordLayout) (object : Object) : WriteProgram object.span :=
  match layout.failure with
  | some reason => .fail (.codecFailed layout.implementation reason)
  | none => layout.writeKnown object

/-- The type is picked only when the fields have been read. -/
def readKnown (layout : RecordLayout) : ReadProgram Object := do
  let position ← if layout.isTagged then UInt8.toNat <$> ReadProgram.value .byte else pure 0
  let fields ← Field.readAll layout.fields
  match layout.typeNames[position]? with
  | some name => pure (.record name fields)
  | none => .fail (.malformed (.recordKind position))

def read (layout : RecordLayout) : ReadProgram Object :=
  match layout.failure with
  | some reason => .fail (.codecFailed layout.implementation reason)
  | none => layout.readKnown

def codec (layout : RecordLayout) : Codec :=
  ⟨layout.implementation, layout.descriptor, layout.write, layout.read⟩

end RecordLayout

end Codec

end CodecRegistry
