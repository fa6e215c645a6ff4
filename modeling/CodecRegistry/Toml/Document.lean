import CodecRegistry.Toml.Value

/-! A document is a list of lines: entries, and headers that say which table the entries after them
belong to. A header may stand for a table once, or, in double brackets, for one more table of a
list. -/

namespace CodecRegistry.Toml

open CodecRegistry.Toml.Parser

inductive Line where
  | blank
  | entry (path : List String) (key : String) (node : Node)
  | header (path : List String) (key : String)
  | listHeader (path : List String) (key : String)

namespace Line

def parser : Parser Line :=
  (do comment; lineEnd; pure .blank) <|>
  (do newline; pure .blank) <|>
  (do
    literal "[["
    let (path, last) ← Toml.key
    literal "]]"
    lineRest
    pure (.listHeader path last)) <|>
  (do
    literal "["
    let (path, last) ← Toml.key
    literal "]"
    lineRest
    pure (.header path last)) <|>
  (do
    let (path, last, node) ← pair (value (nestingLimit - 1))
    lineRest
    pure (.entry path last node))

end Line

/-- The entries that follow one header, which is where they belong. -/
structure Section where
  isList : Bool
  path : List String
  key : String
  entries : List (List String × String × Node)

/-- The entries before the first header, and the sections after it, in order. -/
def sections : List Line → List (List String × String × Node) × List Section
  | [] => ([], [])
  | line :: rest =>
    let (entries, later) := sections rest
    match line with
    | .blank => (entries, later)
    | .entry path key node => ((path, key, node) :: entries, later)
    | .header path key => ([], ⟨false, path, key, entries⟩ :: later)
    | .listHeader path key => ([], ⟨true, path, key, entries⟩ :: later)

namespace Table

/-- Adds entries in order. -/
def addEntries (entries : List (List String × String × Node)) (table : Table) : Option Table :=
  entries.foldlM (fun table (path, key, node) => addEntry path key node table) table

/-- Adds a table to the list of a repeated header. -/
def addListed (key : String) (entries : List (List String × String × Node)) (table : Table) :
    Option Table := do
  let added ← addEntries entries []
  match table.lookup key with
  | none => pure (table ++ [(key, .tables [added])])
  | some (.tables before) => pure (replace key (.tables (added :: before)) table)
  | some _ => none

/-- Adds the table of a header. What other headers implied of it before is kept. -/
def addStated (key : String) (entries : List (List String × String × Node)) (table : Table) :
    Option Table := do
  match table.lookup key with
  | none => pure (table ++ [(key, .table .stated (← addEntries entries []))])
  | some (.table .implied inner) =>
    pure (replace key (.table .stated (← addEntries entries inner)) table)
  | some _ => none

def addSection (part : Section) (table : Table) : Option Table :=
  alter false (fun _ inner =>
    if part.isList then addListed part.key part.entries inner
    else addStated part.key part.entries inner) part.path .stated table

end Table

/-- The lines of a document, which a byte order mark may precede. -/
def lines : Parser (List Line) := do
  discard (maybe (literal "\ufeff"))
  blanks
  let lines ← many (Line.parser <* blanks)
  atEnd
  pure lines

/-- The root table of a document. -/
def parse? (document : String) : Option Table := do
  let (lines, _) ← lines document.toList
  let (entries, sections) := sections lines
  let root ← Table.addEntries entries []
  sections.foldlM (fun table part => Table.addSection part table) root

end CodecRegistry.Toml
