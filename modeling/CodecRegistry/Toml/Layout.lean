import CodecRegistry.Toml.Parser

/-! What stands between the parts of a document: blanks, comments and line ends. -/

namespace CodecRegistry.Toml

open CodecRegistry.Toml.Parser

def isBlank (char : Char) : Bool := char == ' ' || char == '\t'

/-- Whether a character may stand in a comment or, apart from quotes and escapes, in a text: no
control but the tab. -/
def isVisible (char : Char) : Bool := char == '\t' || (' ' ≤ char && char != '\x7f')

def blanks : Parser Unit := discard (run isBlank)

/-- A line ends with a line feed, which a carriage return may precede. -/
def newline : Parser Unit := literal "\n" <|> literal "\r\n"

def comment : Parser Unit := do
  literal "#"
  discard (run isVisible)

/-- The end of a line or of the document. -/
def lineEnd : Parser Unit := newline <|> atEnd

/-- What may follow on a line that is complete. -/
def lineRest : Parser Unit := do
  blanks
  discard (maybe comment)
  lineEnd

/-- Blanks over any number of lines, each of which may end with a comment. -/
def blankLines : Parser Unit := do
  blanks
  discard (many do
    discard (maybe comment)
    newline
    blanks)

end CodecRegistry.Toml
