import CodecRegistry.Codec

/-! Names for types and for codecs, so that descriptors and configuration files can refer to them
by text. A later registration of a name replaces an earlier one. -/

namespace CodecRegistry

structure Catalog where
  types : FiniteMap String ObjectType
  classes : FiniteMap String CodecFactory

namespace Catalog

def empty : Catalog := ⟨∅, ∅⟩

def registerType (catalog : Catalog) (name : String) (type : ObjectType) : Catalog :=
  { catalog with types := catalog.types.insert name type }

def registerClass (catalog : Catalog) (className : String) (make : CodecFactory) : Catalog :=
  { catalog with classes := catalog.classes.insert className make }

def type? (catalog : Catalog) (name : String) : Option ObjectType := catalog.types.get? name

def class? (catalog : Catalog) (className : String) : Option CodecFactory :=
  catalog.classes.get? className

def debugText (catalog : Catalog) : String :=
  Quoted.named "TypeCatalog"
    [("types", Quoted.bracketed (catalog.types.keys.map Quoted.text)),
      ("externalizers", Quoted.bracketed (catalog.classes.keys.map Quoted.text))]

/-- Resolves one handled type for a codec. -/
def resolve (catalog : Catalog) (codec : String) : HandledType → Except SetupError ObjectType
  | .exact type => .ok type
  | .named name =>
    match catalog.type? name with
    | some type => .ok type
    | none => .error (.unresolvedType codec name)

/-- Resolves handled types in order, up to the first that the catalog does not know. -/
def resolveEach (catalog : Catalog) (codec : String) :
    List HandledType → Except SetupError (List ObjectType)
  | [] => .ok []
  | handled :: rest => do
    let type ← catalog.resolve codec handled
    let types ← catalog.resolveEach codec rest
    pure (type :: types)

/-- The types that a codec is registered for, of which there is at least one. -/
def handledTypes (catalog : Catalog) (codec : Codec) : Except SetupError (List ObjectType) :=
  if codec.descriptor.types = [] then .error (.noHandledTypes codec.implementation)
  else catalog.resolveEach codec.implementation codec.descriptor.types

end Catalog

end CodecRegistry
