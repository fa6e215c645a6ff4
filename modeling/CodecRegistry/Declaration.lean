import CodecRegistry.Codec

/-! A module that brings a codec of its own declares it before the registry starts. The codec is
made at the start, because only then its services are known. -/

namespace CodecRegistry

structure Declaration where
  name : String
  /-- An optional codec is left out when a type that it names is not in the catalog. -/
  isOptional : Bool
  make : CodecFactory

namespace Declaration

/-- Declares a codec that needs no services, under the name of its implementation. -/
def ofCodec (codec : Codec) : Declaration := ⟨codec.implementation, false, fun _ => codec⟩

/-- Declares a codec that is made from its services. -/
def ofFactory (name : String) (make : CodecFactory) : Declaration := ⟨name, false, make⟩

def debugText (declaration : Declaration) : String :=
  Quoted.named "InternalExternalizer"
    [("name", Quoted.text declaration.name), ("optional", Quoted.flag declaration.isOptional)]

/-- The declarations whose name was not taken before, by `taken` or by an earlier one. -/
def firstOfEachName (taken : List String) : List Declaration → List Declaration
  | [] => []
  | declaration :: rest =>
    if declaration.name ∈ taken then firstOfEachName taken rest
    else declaration :: firstOfEachName (declaration.name :: taken) rest

end Declaration

end CodecRegistry
