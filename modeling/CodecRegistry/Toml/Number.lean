import CodecRegistry.Toml.Text

/-! Integers in four bases, and numbers with a fraction or an exponent. No setting takes one of the
latter, so of them only the form is checked, and that a positive one is not too large to be one. -/

namespace CodecRegistry.Toml

open CodecRegistry.Toml.Parser

def isDigit (base : Nat) (char : Char) : Bool := (hexValue? char).any fun value => value < base

/-- Digits, between which single bars may stand. -/
def digits (base : Nat) : Parser (List Char) := do
  let first ← run1 (isDigit base)
  let rest ← many (literal "_" *> run1 (isDigit base))
  pure (first ++ rest.flatten)

/-- Whether a number is negative. -/
def sign : Parser Bool :=
  (do literal "-"; pure true) <|> (do literal "+"; pure false) <|> pure false

/-- Digits without leading zeros. -/
def decimalDigits : Parser (List Char) :=
  (do literal "0"; pure ['0']) <|> digits 10

/-- Integers have 64 bits. -/
def inRange (value : Int) : Parser Int :=
  if Int64.minValue.toInt ≤ value ∧ value ≤ Int64.maxValue.toInt then pure value else failure

def decimalInteger : Parser Int := do
  let isNegative ← sign
  let magnitude := number 10 (← decimalDigits)
  inRange (if isNegative then -magnitude else magnitude)

/-- An integer in another base has no sign. -/
def basedInteger (mark : String) (base : Nat) : Parser Int := do
  literal mark
  inRange (number base (← digits base))

def integer : Parser Int :=
  basedInteger "0x" 16 <|> basedInteger "0o" 8 <|> basedInteger "0b" 2 <|> decimalInteger

/-- The smallest number that rounds to infinity as a double: half a step above the largest one. -/
def infinityBound : Nat := Nat.pow 2 1024 - Nat.pow 2 970

/-- Whether `significand` times ten to the power of `exponent` rounds to infinity. The size is
compared first, so that a huge exponent is never raised to. -/
def roundsToInfinity (significand : Nat) (exponent : Int) : Bool :=
  let size := (Nat.toDigits 10 significand).length + exponent
  if significand = 0 ∨ size < 308 then false
  else if 310 < size then true
  else if 0 ≤ exponent then infinityBound ≤ significand * Nat.pow 10 exponent.toNat
  else infinityBound * Nat.pow 10 (-exponent).toNat ≤ significand

/-- The digits after the point. -/
def fraction : Parser (List Char) := literal "." *> digits 10

def exponent : Parser Int := do
  literal "e" <|> literal "E"
  let isNegative ← sign
  let magnitude := number 10 (← digits 10)
  pure (if isNegative then -magnitude else magnitude)

def finiteFloat : Parser Unit := do
  let isNegative ← sign
  let whole ← decimalDigits
  let (places, scale) ←
    (do pure ([], ← exponent)) <|> (do pure (← fraction, (← maybe exponent).getD 0))
  let isInfinite := roundsToInfinity (number 10 (whole ++ places)) (scale - places.length)
  if isInfinite && !isNegative then failure else pure ()

def specialFloat : Parser Unit := sign *> (literal "inf" <|> literal "nan")

def float : Parser Unit := finiteFloat <|> specialFloat

end CodecRegistry.Toml
