import CodecRegistry.BuiltIn
import CodecRegistry.Catalog
import CodecRegistry.Configuration
import CodecRegistry.Frame
import CodecRegistry.Identifier

/-! A registry's life. While it is stopped, types and codecs are named and declared; a start fills
the tables from the built-in codecs, the declarations and the configuration, in this order, or
leaves everything as it was; a stop empties the tables and forgets the declarations, but keeps the
catalog. -/

namespace CodecRegistry

structure Registry where
  declared : List Declaration
  catalog : Catalog
  dispatch : Dispatch

/-- What a step of a registry gives: its answer, the registry after it and its report. -/
structure Outcome (α : Type) where
  answer : α
  registry : Registry
  log : List Event

namespace Registry

def empty : Registry := ⟨[], .empty, .empty⟩

def isRunning (registry : Registry) : Bool := registry.dispatch.isRunning

/-- Declares a codec for the next start. The first declaration of a name counts. -/
def declare (registry : Registry) (declaration : Declaration) :
    Except SetupError Bool × Registry :=
  if registry.isRunning then (.error .alreadyStarted, registry)
  else if registry.declared.any fun known => known.name = declaration.name then
    (.ok false, registry)
  else (.ok true, { registry with declared := registry.declared ++ [declaration] })

def registerType (registry : Registry) (name : String) (type : ObjectType) : Registry :=
  { registry with catalog := registry.catalog.registerType name type }

def registerClass (registry : Registry) (className : String) (make : CodecFactory) : Registry :=
  { registry with catalog := registry.catalog.registerClass className make }

/-- Binds the codec of a declaration to its internal id. -/
def loadDeclaration (catalog : Catalog) (services : Services) (declaration : Declaration)
    (dispatch : Dispatch) : Loading :=
  let codec := declaration.make services
  match Identifier.checkInternal codec.descriptor.id codec.implementation with
  | .error error => ⟨.error error, dispatch, []⟩
  | .ok id =>
    match catalog.handledTypes codec with
    | .ok types => Dispatch.register ⟨.internal id, codec⟩ types dispatch
    | .error (.unresolvedType name typeName) =>
      if declaration.isOptional then
        ⟨.ok (), dispatch, [.optionalSkipped declaration.name (.unresolvedType name typeName)]⟩
      else ⟨.error (.unresolvedType name typeName), dispatch, []⟩
    | .error error => ⟨.error error, dispatch, []⟩

/-- The codec of a configuration entry: the one given outright, or one made by its class. -/
def entryCodec (catalog : Catalog) (services : Services) (position : Nat)
    (entry : ConfigurationEntry) : Except SetupError Codec :=
  match entry.codec, entry.className with
  | some codec, _ => .ok codec
  | none, some className =>
    match catalog.class? className with
    | some make => .ok (make services)
    | none => .error (.unknownClass className)
  | none, none => .error (.missingCodec position)

/-- What a configuration entry binds to which types. -/
def entryBinding (catalog : Catalog) (services : Services) (position : Nat)
    (entry : ConfigurationEntry) : Except SetupError (Binding × List ObjectType) := do
  let codec ← entryCodec catalog services position entry
  let id ← Identifier.resolveForeign entry.id codec.descriptor.id codec.implementation
  let types ← catalog.handledTypes codec
  pure (⟨.foreign id, codec⟩, types)

/-- Binds the codec of the configuration entry at a position to its foreign id. -/
def loadEntry (catalog : Catalog) (services : Services) (item : ConfigurationEntry × Nat)
    (dispatch : Dispatch) : Loading :=
  match entryBinding catalog services item.2 item.1 with
  | .error error => ⟨.error error, dispatch, []⟩
  | .ok (binding, types) => Dispatch.register binding types dispatch

/-- Fills empty tables with everything that a start loads. -/
def load (registry : Registry) (services : Services) (configuration : Configuration) : Loading :=
  let declarations := Declaration.firstOfEachName [] (Declaration.builtIn ++ registry.declared)
  (Loading.each (loadDeclaration registry.catalog services) declarations .empty).andThen <|
    Loading.each (loadEntry registry.catalog services) configuration.entries.zipIdx

/-- What a successful start reports at its end. -/
def startEvents (dispatch : Dispatch) (cluster : String) : List Event :=
  [.readersListed dispatch.readerNames, .writersListed dispatch.writerNames,
    .started cluster dispatch.readers.size dispatch.writers.size]

def start (registry : Registry) (services : Services) (configuration : Configuration) :
    Outcome (Except SetupError Unit) :=
  if registry.isRunning then ⟨.error .alreadyStarted, registry, []⟩
  else
    let loading := registry.load services configuration
    match loading.result with
    | .error error => ⟨.error error, registry, loading.log⟩
    | .ok () =>
      ⟨.ok (), { registry with dispatch := { loading.dispatch with isRunning := true } },
        loading.log ++ startEvents loading.dispatch configuration.clusterName⟩

def stop (registry : Registry) : Outcome Unit :=
  ⟨(), { registry with declared := [], dispatch := .empty },
    if registry.isRunning then [.stopped] else []⟩

/-- Takes a type out of the tables of a registry, running or not. -/
def unregister (registry : Registry) (type : ObjectType) : Outcome Bool :=
  let (removed, dispatch) := registry.dispatch.unregister type
  ⟨removed, { registry with dispatch }, if removed then [.unregistered type] else []⟩

end Registry

end CodecRegistry
