import CodecRegistry.Text.Printable

/-! How logs and listings show values. Texts stand in quotes, and what would end the quote or cannot
be seen is escaped, so distinct texts never look alike. -/

namespace CodecRegistry.Quoted

/-- Lower-case hexadecimal without leading zeros. -/
def hex (value : Nat) : String := String.ofList (Nat.toDigits 16 value)

def escaped (char : Char) : String :=
  match char with
  | '\x00' => "\\0"
  | '\t' => "\\t"
  | '\r' => "\\r"
  | '\n' => "\\n"
  | '"' => "\\\""
  | '\\' => "\\\\"
  | char =>
    if Printable.isPrintable char then char.toString
    else "\\u\x7b" ++ hex char.toNat ++ "\x7d"

def text (value : String) : String :=
  "\"" ++ String.join (value.toList.map escaped) ++ "\""

/-- A list in square brackets. -/
def bracketed (items : List String) : String := "[" ++ String.intercalate ", " items ++ "]"

/-- A map in braces. -/
def braced (items : List String) : String := "\x7b" ++ String.intercalate ", " items ++ "\x7d"

/-- A value with a name and named parts. -/
def named (name : String) (parts : List (String × String)) : String :=
  let shown := parts.map fun part => part.1 ++ ": " ++ part.2
  name ++ " \x7b " ++ String.intercalate ", " shown ++ " \x7d"

/-- A value that may be absent. -/
def optional : Option String → String
  | some value => "Some(" ++ value ++ ")"
  | none => "None"

/-- A truth value. -/
def flag (value : Bool) : String := if value then "true" else "false"

end CodecRegistry.Quoted
