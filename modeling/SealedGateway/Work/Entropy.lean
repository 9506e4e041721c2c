import SealedGateway.Bytes.Basic

/-!
# Entropy

Random bytes come from a stream that is used up from the front.  A draw takes the next bytes and
nothing else; a draw that asks for more than there is takes nothing.
-/

namespace SealedGateway

/-- A stream of random bytes and how much of it has been used. -/
structure Entropy where
  /-- The bytes not yet used. -/
  remaining : Bytes
  /-- The number of bytes used so far. -/
  used : Nat
deriving DecidableEq

namespace Entropy

/-- A stream of which nothing has been used. -/
def ofBytes (bytes : Bytes) : Entropy := ⟨bytes, 0⟩

/-- The stream without its first bytes. -/
def skip (entropy : Entropy) (size : Nat) : Entropy :=
  ⟨entropy.remaining.drop size, entropy.used + size⟩

/-- The next bytes of the stream and the stream behind them. -/
def draw? (entropy : Entropy) (size : Nat) : Option (Octets size × Entropy) :=
  (Octets.ofList? size (entropy.remaining.take size)).map fun octets => (octets, entropy.skip size)

theorem draw?_eq_none_iff (entropy : Entropy) (size : Nat) :
    entropy.draw? size = none ↔ entropy.remaining.length < size := by
  simp only [draw?, Option.map_eq_none_iff, Octets.ofList?_eq_none_iff, List.length_take]
  omega

end Entropy
end SealedGateway
