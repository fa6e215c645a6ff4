/-! The tree that a document stands for. A table may be extended later in the document, depending on
how it came to be, so that is kept with it until the document is read. -/

namespace CodecRegistry.Toml

/-- How a table came to be. -/
inductive Origin where
  /-- Under a header of its own, or in braces. -/
  | stated
  /-- Because a header names something inside it. -/
  | implied
  /-- Because a dotted key names something inside it. -/
  | dotted
  deriving DecidableEq, Repr

inductive Node where
  | text (value : String)
  | integer (value : Int)
  | float
  | flag (value : Bool)
  | moment
  | array (items : List Node)
  /-- A table in braces, which is complete. -/
  | inline (entries : List (String × Node))
  | table (origin : Origin) (entries : List (String × Node))
  /-- Tables under one repeated header, the last one first. -/
  | tables (items : List (List (String × Node)))

abbrev Table := List (String × Node)

namespace Table

/-- Puts a node in the place of the one that the key had. -/
def replace (key : String) (node : Node) (table : Table) : Table :=
  table.map fun entry => if entry.1 = key then (key, node) else entry

/-- Changes the table at a path, on which missing tables are made. Dotted keys only reach into
tables that nothing has stated; both kinds of path go on in the last of repeated tables. -/
def alter (isDotted : Bool) (change : Origin → Table → Option Table) :
    List String → Origin → Table → Option Table
  | [], origin, table => change origin table
  | key :: path, _, table =>
    match table.lookup key with
    | none => do
      let origin := if isDotted then .dotted else .implied
      let inner ← alter isDotted change path origin []
      pure (table ++ [(key, .table origin inner)])
    | some (.table origin inner) =>
      if isDotted ∧ origin = .stated then none
      else do
        let inner ← alter isDotted change path origin inner
        pure (replace key (.table origin inner) table)
    | some (.tables (last :: before)) => do
      let last ← alter isDotted change path .stated last
      pure (replace key (.tables (last :: before)) table)
    | some _ => none

/-- Adds an entry. A table that a dotted key leads to must have been made by such keys. -/
def addEntry (path : List String) (key : String) (node : Node) (table : Table) : Option Table :=
  alter true (fun origin inner =>
    if (path = [] ∨ origin = .dotted) ∧ inner.lookup key = none then
      some (inner ++ [(key, node)])
    else none) path .stated table

end Table

/-- The table of entries in braces. -/
def Node.ofPairs (pairs : List (List String × String × Node)) : Option Node :=
  Node.inline <$> pairs.foldlM (fun table (path, key, node) => Table.addEntry path key node table)
    ([] : Table)

end CodecRegistry.Toml
