/-! Settings are written in TOML. A parser takes a value off the front of the characters or fails;
where one fails another may be tried on the same characters. A loop takes at most one round for each
character that was left when it began, which is enough for every loop that consumes something. -/

namespace CodecRegistry.Toml

abbrev Parser := StateT (List Char) Option

namespace Parser

variable {α β : Type}

/-- One character that passes a test. -/
def satisfy (test : Char → Bool) : Parser Char
  | [] => none
  | char :: rest => if test char then some (char, rest) else none

/-- The characters of a text, in order. -/
def literal (text : String) : Parser Unit :=
  text.toList.forM fun expected => discard (satisfy fun char => char == expected)

/-- The longest run of characters that pass a test. -/
def run (test : Char → Bool) : Parser (List Char) := fun input => some (input.span test)

/-- A run of at least one character. -/
def run1 (test : Char → Bool) : Parser (List Char) := do
  let first ← satisfy test
  let rest ← run test
  pure (first :: rest)

/-- Exactly `count` characters that pass a test. -/
def exactly (test : Char → Bool) : Nat → Parser (List Char)
  | 0 => pure []
  | count + 1 => do
    let first ← satisfy test
    let rest ← exactly test count
    pure (first :: rest)

/-- Succeeds where a parser would, but consumes nothing. -/
def ahead (parser : Parser α) : Parser Unit := fun input => (parser input).map fun _ => ((), input)

def atEnd : Parser Unit
  | [] => some ((), [])
  | _ :: _ => none

/-- The value of a parser, or nothing where it fails. -/
def maybe (parser : Parser α) : Parser (Option α) := some <$> parser <|> pure none

/-- Values one after the other, at most as many as there are characters in the first list. -/
def manyWithin (parser : Parser α) : List Char → List Char → List α × List Char
  | [], input => ([], input)
  | _ :: rounds, input =>
    match parser input with
    | none => ([], input)
    | some (value, rest) =>
      let (values, rest) := manyWithin parser rounds rest
      (value :: values, rest)

/-- As many values as there are, one after the other. -/
def many (parser : Parser α) : Parser (List α) := fun input =>
  some (manyWithin parser input input)

/-- Values with a separator between them, at least one. A separator with no value after it is left
where it is. -/
def separated1 (parser : Parser α) (separator : Parser β) : Parser (List α) := do
  let first ← parser
  let rest ← many (separator *> parser)
  pure (first :: rest)

def separated (parser : Parser α) (separator : Parser β) : Parser (List α) :=
  separated1 parser separator <|> pure []

end Parser

end CodecRegistry.Toml
