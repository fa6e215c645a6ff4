/-! A codec is found by the runtime type of the object at hand. The built-in types are known here;
an application adds types of its own, told apart by their full names. -/

namespace CodecRegistry

inductive ObjectType where
  | unorderedMap
  | sortedMap
  | address
  | transaction
  | packed
  | success
  | failure
  | ignored
  | command
  | immortalEntry
  | mortalEntry
  | key
  | application (name : String)
  deriving DecidableEq, Repr

namespace ObjectType

/-- The full name, as messages and logs show it. -/
def name : ObjectType → String
  | unorderedMap =>
    "std::collections::hash::map::HashMap<alloc::string::String, bytes::bytes::Bytes>"
  | sortedMap =>
    "alloc::collections::btree::map::BTreeMap<alloc::string::String, bytes::bytes::Bytes>"
  | address => "spark_marshal::exts::transaction::NodeAddress"
  | transaction => "spark_marshal::exts::transaction::GlobalTransaction"
  | packed => "spark_marshal::exts::marshalled::MarshalledValue"
  | success => "spark_marshal::exts::responses::SuccessfulResponse"
  | failure => "spark_marshal::exts::responses::UnsuccessfulResponse"
  | ignored => "spark_marshal::exts::responses::RequestIgnoredResponse"
  | command => "spark_marshal::exts::command::RemoteCommand"
  | immortalEntry => "spark_marshal::exts::entries::ImmortalCacheEntry"
  | mortalEntry => "spark_marshal::exts::entries::MortalCacheEntry"
  | key => "spark_marshal::exts::key::ByteArrayKey"
  | application name => name

/-- What a message shows where the type's number would stand, which only the running process
knows. -/
def placeholder : String := "TypeId(*)"

end ObjectType

end CodecRegistry
