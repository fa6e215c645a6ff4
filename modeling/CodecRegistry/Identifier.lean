import CodecRegistry.SetupError

/-! Ids come from declarations and from configuration files, as signed numbers of any size. Only
these checks turn them into the words that frames carry, so a codec that passed them never takes
the sentinel byte and never reaches into the other namespace. -/

namespace CodecRegistry.Identifier

/-- An internal codec declares its id, and it is a byte below the sentinel. -/
def checkInternal (id : Option Int32) (codec : String) : Except SetupError UInt8 :=
  match id with
  | none => .error (.missingId codec)
  | some id =>
    if 0 ≤ id ∧ id < 255 then .ok (UInt8.ofNat id.toInt.toNat)
    else .error (.internalIdOutOfRange codec id.toInt64)

/-- A foreign id is not negative and stays below the flag of its namespace. -/
def checkForeign (id : Int64) (codec : String) : Except SetupError UInt32 :=
  if id < 0 then .error (.negativeForeignId codec id)
  else if id.toInt ≤ FrameKey.largestForeignId.toNat then .ok (UInt32.ofNat id.toInt.toNat)
  else .error (.foreignIdOutOfRange codec id)

/-- The configured id counts before the one that the codec declares. -/
def resolveForeign (configured : Option Int64) (declared : Option Int32) (codec : String) :
    Except SetupError UInt32 :=
  match configured <|> declared.map Int32.toInt64 with
  | none => .error (.missingId codec)
  | some id => checkForeign id codec

end CodecRegistry.Identifier
