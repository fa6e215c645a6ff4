import CodecRegistry.Codec

/-! The settings of a node that concern its registry: the cluster it belongs to, the version of its
standalone buffers, and the foreign codecs that it loads. -/

namespace CodecRegistry

/-- One foreign codec: given outright or by the name of a class, with or without an id of its own. -/
structure ConfigurationEntry where
  codec : Option Codec
  className : Option String
  id : Option Int64

structure Configuration where
  clusterName : String
  version : UInt16
  entries : List ConfigurationEntry

namespace Configuration

def standard : Configuration := ⟨"spark-cluster", Marshaller.defaultVersion, []⟩

end Configuration

namespace ConfigurationEntry

def debugText (entry : ConfigurationEntry) : String :=
  Quoted.named "ExternalizerConfig"
    [("externalizer", Quoted.optional (entry.codec.map Codec.implementation)),
      ("class_name", Quoted.optional (entry.className.map Quoted.text)),
      ("id", Quoted.optional (entry.id.map fun id => toString id.toInt))]

end ConfigurationEntry

namespace Configuration

def debugText (configuration : Configuration) : String :=
  Quoted.named "GlobalConfiguration"
    [("cluster_name", Quoted.text configuration.clusterName),
      ("serialization", Quoted.named "SerializationConfig"
        [("marshall_version", toString configuration.version.toNat),
          ("externalizers",
            Quoted.bracketed (configuration.entries.map ConfigurationEntry.debugText))])]

end Configuration

end CodecRegistry
