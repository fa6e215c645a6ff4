import CodecRegistry.FiniteMap

/-! Tokens tell the callers of a registry that the node is stopping. A token made from another one
shares its flag, so cancelling either cancels both. Tokens are known by name; flags are numbered. -/

namespace CodecRegistry

structure Tokens where
  /-- The flag that each token refers to. -/
  flagOf : FiniteMap String Nat
  /-- The flags that are up. -/
  raised : List Nat
  /-- How many flags there are. -/
  count : Nat

namespace Tokens

def empty : Tokens := ⟨∅, [], 0⟩

/-- A token with a flag of its own, in place of any token of that name. -/
def create (tokens : Tokens) (name : String) : Tokens :=
  { tokens with flagOf := tokens.flagOf.insert name tokens.count, count := tokens.count + 1 }

/-- A token that shares the flag of another. -/
def derive (tokens : Tokens) (name parent : String) : Tokens :=
  match tokens.flagOf.get? parent with
  | some flag => { tokens with flagOf := tokens.flagOf.insert name flag }
  | none => tokens.create name

def isCancelled (tokens : Tokens) (name : String) : Bool :=
  (tokens.flagOf.get? name).any fun flag => flag ∈ tokens.raised

/-- Raises the flag of a token. The answer says whether it was down before. -/
def cancel (tokens : Tokens) (name : String) : Bool × Tokens :=
  match tokens.flagOf.get? name with
  | none => (false, tokens)
  | some flag =>
    if flag ∈ tokens.raised then (false, tokens)
    else (true, { tokens with raised := flag :: tokens.raised })

end Tokens

end CodecRegistry
