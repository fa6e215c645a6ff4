import CodecRegistry.FrameKey
import CodecRegistry.ObjectType

/-! Why a registry refuses to start, a declaration or a configuration. Every one of these is a
mistake of the people who set the node up, so each names the codec or the entry at fault. -/

namespace CodecRegistry

inductive SetupError where
  | missingId (codec : String)
  | internalIdOutOfRange (codec : String) (id : Int64)
  | negativeForeignId (codec : String) (id : Int64)
  | foreignIdOutOfRange (codec : String) (id : Int64)
  | noHandledTypes (codec : String)
  | duplicateId (id : UInt32) (type : ObjectType) (rejected existing : String) (key : FrameKey)
  | unresolvedType (codec typeName : String)
  | unknownClass (className : String)
  | missingCodec (position : Nat)
  | alreadyStarted
  | unparsable
  | unreadable
  deriving DecidableEq, Repr

namespace SetupError

/-- The stable name under which monitoring counts an error. -/
def code : SetupError → String
  | missingId _ => "marshal.config.missing_id"
  | internalIdOutOfRange .. => "marshal.config.internal_id_range"
  | negativeForeignId .. => "marshal.config.foreign_id_negative"
  | foreignIdOutOfRange .. => "marshal.config.foreign_id_range"
  | noHandledTypes _ => "marshal.config.no_handled_types"
  | duplicateId .. => "marshal.config.duplicate_id"
  | unresolvedType .. => "marshal.config.unresolved_type"
  | unknownClass _ => "marshal.config.unknown_class"
  | missingCodec _ => "marshal.config.missing_externalizer"
  | alreadyStarted => "marshal.config.already_started"
  | unparsable => "marshal.config.parse"
  | unreadable => "marshal.config.io"

/-- The wording. A document that does not parse and a file that cannot be read have none here:
theirs would only repeat the parser or the file system. -/
def message? : SetupError → Option String
  | missingId codec => some s!"no externalizer identifier set for externalizer {codec}"
  | internalIdOutOfRange codec id => some <|
    s!"internal {codec} externalizer is using an id({id.toInt}) that exceeds the limit; " ++
      "it needs to be within [0, 255)"
  | negativeForeignId codec id => some <|
    s!"foreign {codec} externalizer is using a negative id({id.toInt}); " ++
      "only positive id values are allowed"
  | foreignIdOutOfRange codec id => some <|
    s!"foreign {codec} externalizer is using an id({id.toInt}) larger than " ++
      s!"{FrameKey.largestForeignId.toNat}"
  | noHandledTypes codec => some s!"externalizer {codec} must declare at least one handled type"
  | duplicateId id type rejected existing key => some <|
    s!"duplicate id found! externalizer id={id.toNat} for {type.name} ({rejected}) is shared by " ++
      s!"another externalizer ({existing}); reader index is {key.text}"
  | unresolvedType codec typeName => some <|
    s!"externalizer {codec} declares type `" ++ typeName ++ "` which cannot be resolved"
  | unknownClass className => some ("externalizer class `" ++ className ++ "` is not registered")
  | missingCodec position => some
    s!"externalizer entry #{position} provides neither an instance nor a class name"
  | alreadyStarted => some "externalizer table is already started"
  | unparsable | unreadable => none

end SetupError

end CodecRegistry
