/-!
Cancellation tokens. A token is a number; copies of a token are the same number, so cancelling one
cancels all of them.
-/

namespace ComponentServer

structure Token where
  index : Nat
deriving DecidableEq, Repr

/-- Whether each token made so far is cancelled. -/
structure Tokens where
  flags : List Bool
deriving DecidableEq, Repr

namespace Tokens

def empty : Tokens := ⟨[]⟩

/-- A token that differs from all others and is not cancelled. -/
def fresh (tokens : Tokens) : Token × Tokens := (⟨tokens.flags.length⟩, ⟨tokens.flags ++ [false]⟩)

def cancel (tokens : Tokens) (token : Token) : Tokens := ⟨tokens.flags.set token.index true⟩

def isCancelled (tokens : Tokens) (token : Token) : Bool := tokens.flags.getD token.index false

end Tokens

end ComponentServer
