import CodecRegistry.Toml.Layout

/-! The four ways to write a text: with escapes or without, on one line or over several. -/

namespace CodecRegistry.Toml

open CodecRegistry.Toml.Parser

def hexValue? (char : Char) : Option Nat :=
  if '0' ≤ char ∧ char ≤ '9' then some (char.toNat - '0'.toNat)
  else if 'a' ≤ char ∧ char ≤ 'f' then some (char.toNat - 'a'.toNat + 10)
  else if 'A' ≤ char ∧ char ≤ 'F' then some (char.toNat - 'A'.toNat + 10)
  else none

/-- The number that digits spell in a base. -/
def number (base : Nat) (digits : List Char) : Nat :=
  digits.foldl (fun value char => value * base + (hexValue? char).getD 0) 0

/-- A character given by its number, which must be one. -/
def codePoint (digits : Nat) : Parser Char := do
  let point := number 16 (← exactly (fun char => (hexValue? char).isSome) digits)
  if point.isValidChar then pure (Char.ofNat point) else failure

def escape : Parser Char := do
  literal "\\"
  match ← satisfy fun _ => true with
  | 'b' => pure '\x08'
  | 't' => pure '\t'
  | 'n' => pure '\n'
  | 'f' => pure '\x0c'
  | 'r' => pure '\r'
  | '"' => pure '"'
  | '\\' => pure '\\'
  | 'u' => codePoint 4
  | 'U' => codePoint 8
  | _ => failure

/-- Characters that stand for themselves where escapes are read. -/
def plain : Parser (List Char) := run1 fun char => isVisible char && char != '"' && char != '\\'

/-- Characters that stand for themselves where no escapes are read. -/
def isLiteral (char : Char) : Bool := isVisible char && char != '\''

/-- A text on one line, with escapes. -/
def basicText : Parser (List Char) := do
  literal "\""
  let parts ← many (plain <|> List.singleton <$> escape)
  literal "\""
  pure parts.flatten

/-- A text on one line, as it stands. -/
def literalText : Parser (List Char) := do
  literal "'"
  let chars ← run isLiteral
  literal "'"
  pure chars

/-- Up to two quotes within a text over several lines, if something else follows them. -/
def innerQuotes (quote : String) (next : Parser Unit) : Parser (List Char) :=
  (do literal (quote ++ quote); ahead next; pure (quote ++ quote).toList) <|>
    (do literal quote; ahead next; pure quote.toList)

/-- The end of a text over several lines. Up to two quotes directly before it belong to the text. -/
def closingQuotes (quote : String) : Parser (List Char) := do
  let delimiter := literal (quote ++ quote ++ quote)
  let last ← maybe (innerQuotes quote delimiter)
  delimiter
  pure (last.getD [])

/-- A line break as it appears in a text. -/
def innerNewline : Parser (List Char) := do
  newline
  pure ['\n']

/-- A backslash at the end of a line takes the blanks and line breaks after it away. -/
def continuedLine : Parser (List Char) := do
  literal "\\"
  blanks
  newline
  discard (many (newline <|> discard (run1 isBlank)))
  pure []

/-- A text over several lines. A line break directly after the opening is no part of it. -/
def longText (quote : String) (part : Parser (List Char)) : Parser (List Char) := do
  literal (quote ++ quote ++ quote)
  discard (maybe newline)
  let other := discard (satisfy fun char => !quote.toList.contains char)
  let parts ← many (part <|> innerQuotes quote other)
  let last ← closingQuotes quote
  pure (parts.flatten ++ last)

def longBasicText : Parser (List Char) :=
  longText "\"" (plain <|> continuedLine <|> List.singleton <$> escape <|> innerNewline)

def longLiteralText : Parser (List Char) := longText "'" (run1 isLiteral <|> innerNewline)

def text : Parser String :=
  String.ofList <$> (longBasicText <|> basicText <|> longLiteralText <|> literalText)

end CodecRegistry.Toml
