import CodecRegistry.Configuration
import CodecRegistry.SetupError
import CodecRegistry.Toml.Document

/-! Settings as a document gives them. A group of settings is a table, or an array that lists them
in order; what is left out has its standard value, and a name that is no setting is a mistake. -/

namespace CodecRegistry

namespace Toml.Node

/-- The settings of a group, by name. -/
def group? (names : List String) : Node → Option (String → Option Node)
  | inline entries | table _ entries =>
    if entries.all fun entry => entry.1 ∈ names then some fun name => entries.lookup name
    else none
  | array items => some fun name => (names.zip items).lookup name
  | _ => none

def text? : Node → Option String
  | text value => some value
  | _ => none

def integer? : Node → Option Int
  | integer value => some value
  | _ => none

/-- The items of a list, also of one that repeated headers give. -/
def items? : Node → Option (List Node)
  | array items => some items
  | tables items => some (items.reverse.map (.table .stated))
  | _ => none

/-- Reads a setting if it is there. -/
def read? {α : Type} (setting : Option Node) (read : Node → Option α) : Option (Option α) :=
  match setting with
  | none => some none
  | some node => some <$> read node

end Toml.Node

open Toml (Node)

namespace ConfigurationEntry

/-- A document can only name a class. -/
def ofNode? (node : Node) : Option ConfigurationEntry := do
  let setting ← node.group? ["class", "id"]
  let className ← Node.read? (setting "class") Node.text?
  let id ← Node.read? (setting "id") Node.integer?
  pure ⟨none, className, id.map Int64.ofInt⟩

end ConfigurationEntry

namespace Configuration

/-- A version is a number of 16 bits. -/
def version? (node : Node) : Option UInt16 := do
  let value ← node.integer?
  if 0 ≤ value ∧ value < 65536 then some (UInt16.ofNat value.toNat) else none

def ofNode? (node : Node) : Option Configuration := do
  let setting ← node.group? ["cluster_name", "serialization"]
  let clusterName ← Node.read? (setting "cluster_name") Node.text?
  let serialization ← Node.read? (setting "serialization") fun inner =>
    inner.group? ["marshall_version", "externalizers"]
  let inner := serialization.getD fun _ => none
  let version ← Node.read? (inner "marshall_version") version?
  let entries ← Node.read? (inner "externalizers") fun list => do
    (← list.items?).mapM ConfigurationEntry.ofNode?
  pure ⟨clusterName.getD standard.clusterName, version.getD standard.version,
    entries.getD standard.entries⟩

def ofText (document : String) : Except SetupError Configuration :=
  match (Toml.parse? document).bind fun root => ofNode? (.table .stated root) with
  | some configuration => .ok configuration
  | none => .error .unparsable

/-- The configuration that a file holds. -/
def ofBytes (content : Bytes) : Except SetupError Configuration :=
  match Utf8.decode content with
  | .ok document => ofText document
  | .error _ => .error .unreadable

end Configuration

end CodecRegistry
