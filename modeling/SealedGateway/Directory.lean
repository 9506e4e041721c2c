import SealedGateway.Key.Reading
import SealedGateway.Key.Store
import SealedGateway.Text.Blank

/-!
# Resolving recipient keys

The key of an identity comes from a store that the caller keeps, or else from the directory of
the gateway.  A key from the directory enters the store; an answer that is no key does not, and
a stored key is never asked for again.
-/

namespace SealedGateway

/-- What asking for a key gives. -/
structure Resolution (σ : Type) where
  /-- The key, or why there is none. -/
  outcome : Except Failure RecipientKey
  /-- The store afterwards. -/
  keys : σ
  /-- The identities for which the directory was asked. -/
  fetched : List String

namespace Directory

/-- The key that an answer of the directory spells, with blanks around it. -/
def readAnswer (answer : String) : Except Failure RecipientKey :=
  match RecipientKey.ofText (Value.ofString (Text.strip answer)) with
  | .ok key => .ok key
  | .error fault => .error (.badKey fault)

/-- Resolves the key of an identity with a store and a directory. -/
def resolve {σ : Type} [KeyStore σ] (directory : String → Except Failure String) (keys : σ)
    (identity : String) : Resolution σ :=
  match KeyStore.load? keys identity with
  | some key => ⟨.ok key, keys, []⟩
  | none =>
    match (directory identity).bind readAnswer with
    | .ok key => ⟨.ok key, KeyStore.store keys identity key, [identity]⟩
    | .error failure => ⟨.error failure, keys, [identity]⟩

/-- The directory with given entries. -/
def ofEntries (entries : List (String × String)) (identity : String) : Except Failure String :=
  match entries.find? fun entry => entry.1 = identity with
  | some (_, answer) => .ok answer
  | none => .error (.missing identity)

end Directory
end SealedGateway
