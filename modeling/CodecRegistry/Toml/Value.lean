import CodecRegistry.Toml.Moment
import CodecRegistry.Toml.Node

/-! Keys and values. Arrays and tables in braces may lie inside each other, but not too deep. -/

namespace CodecRegistry.Toml

open CodecRegistry.Toml.Parser

/-- A dotted key has fewer parts than this, and values lie less deep. -/
def nestingLimit : Nat := 80

def isKeyChar (char : Char) : Bool := char.isAlphanum || char == '-' || char == '_'

def simpleKey : Parser String :=
  String.ofList <$> (basicText <|> literalText <|> run1 isKeyChar)

/-- The tables that a key leads through, and its last part. -/
def key : Parser (List String × String) := do
  let parts ← separated1 (blanks *> simpleKey <* blanks) (literal ".")
  if parts.length < nestingLimit then pure (parts.dropLast, parts.getLastD "") else failure

/-- A key and its value. -/
def pair (value : Parser Node) : Parser (List String × String × Node) := do
  let (path, last) ← key
  literal "="
  blanks
  pure (path, last, ← value)

/-- A comma may follow the last item. -/
def array (value : Parser Node) : Parser Node := do
  literal "["
  let items ← separated (blankLines *> value <* blankLines) (literal ",")
  if items.isEmpty then pure () else discard (maybe (literal ","))
  blankLines
  literal "]"
  pure (.array items)

/-- A table in braces stands on one line, apart from the values in it. -/
def braces (value : Parser Node) : Parser Node := do
  literal "\x7b"
  let pairs ← separated (pair value <* blanks) (literal ",")
  blanks
  literal "\x7d"
  match Node.ofPairs pairs with
  | some node => pure node
  | none => failure

def scalar : Parser Node :=
  Node.text <$> text <|> (do moment; pure .moment) <|> (do float; pure .float) <|>
    Node.integer <$> integer <|> (do literal "true"; pure (.flag true)) <|>
    (do literal "false"; pure (.flag false))

/-- A value in which others lie at most `levels` deep. -/
def value : Nat → Parser Node
  | 0 => scalar
  | levels + 1 => array (value levels) <|> braces (value levels) <|> scalar

end CodecRegistry.Toml
