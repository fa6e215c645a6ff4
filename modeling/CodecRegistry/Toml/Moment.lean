import CodecRegistry.Toml.Number

/-! Dates and times. No setting takes one, so only the form is checked. -/

namespace CodecRegistry.Toml

open CodecRegistry.Toml.Parser

/-- A number of two digits within bounds. -/
def twoDigits (least greatest : Nat) : Parser Nat := do
  let value := number 10 (← exactly (isDigit 10) 2)
  if least ≤ value ∧ value ≤ greatest then pure value else failure

def daysIn (year month : Nat) : Nat :=
  if month = 2 then
    if year % 4 = 0 ∧ (year % 100 ≠ 0 ∨ year % 400 = 0) then 29 else 28
  else if month = 4 ∨ month = 6 ∨ month = 9 ∨ month = 11 then 30
  else 31

def date : Parser Unit := do
  let year := number 10 (← exactly (isDigit 10) 4)
  literal "-"
  let month ← twoDigits 1 12
  literal "-"
  discard (twoDigits 1 (daysIn year month))

/-- A minute may have a leap second. -/
def time : Parser Unit := do
  discard (twoDigits 0 23)
  literal ":"
  discard (twoDigits 0 59)
  literal ":"
  discard (twoDigits 0 60)
  discard (maybe (literal "." *> run1 (isDigit 10)))

def offset : Parser Unit :=
  discard (satisfy fun char => char == 'Z' || char == 'z') <|> do
    discard (satisfy fun char => char == '+' || char == '-')
    discard (twoDigits 0 23)
    literal ":"
    discard (twoDigits 0 59)

def moment : Parser Unit :=
  (do
    date
    discard (maybe do
      discard (satisfy fun char => char == 'T' || char == 't' || char == ' ')
      time
      discard (maybe offset))) <|> time

end CodecRegistry.Toml
