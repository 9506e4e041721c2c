import SealedGateway.Identifier

/-!
# Stores of recipient keys

The caller keeps the keys of recipients in a store of its own.  All that is asked of a store is
that it gives back the last key kept under an identity.  `KeyCache` is the plainest such store.
-/

namespace SealedGateway

/-- A store of keys under identities. -/
class KeyStore (σ : Type) where
  /-- The key kept under an identity. -/
  load? : σ → String → Option RecipientKey
  /-- The store with a key kept under an identity. -/
  store : σ → String → RecipientKey → σ

/-- A store that gives back the last key kept under an identity. -/
class LawfulKeyStore (σ : Type) [KeyStore σ] : Prop where
  load?_store_self : ∀ (keys : σ) (identity : String) (key : RecipientKey),
    KeyStore.load? (KeyStore.store keys identity key) identity = some key
  load?_store_of_ne : ∀ (keys : σ) (identity other : String) (key : RecipientKey),
    other ≠ identity →
      KeyStore.load? (KeyStore.store keys identity key) other = KeyStore.load? keys other

/-- Keys by identity, in the order in which the identities were first stored. -/
structure KeyCache where
  /-- The identities with their keys. -/
  entries : List (String × RecipientKey)
deriving DecidableEq

namespace KeyCache

/-- The cache without any key. -/
def empty : KeyCache := ⟨[]⟩

/-- The key under the first entry of an identity. -/
def loadFrom? (identity : String) : List (String × RecipientKey) → Option RecipientKey
  | [] => none
  | (name, key) :: rest => if name = identity then some key else loadFrom? identity rest

/-- The entries with a key under an identity, in the place that the identity already has. -/
def storeIn (identity : String) (key : RecipientKey) :
    List (String × RecipientKey) → List (String × RecipientKey)
  | [] => [(identity, key)]
  | (name, kept) :: rest =>
    if name = identity then (name, key) :: rest else (name, kept) :: storeIn identity key rest

theorem loadFrom?_storeIn_self (identity : String) (key : RecipientKey)
    (entries : List (String × RecipientKey)) :
    loadFrom? identity (storeIn identity key entries) = some key := by
  induction entries with
  | nil => simp [storeIn, loadFrom?]
  | cons entry rest ih =>
    by_cases isHere : entry.1 = identity
    · simp [storeIn, loadFrom?, isHere]
    · simp [storeIn, loadFrom?, isHere, ih]

theorem loadFrom?_storeIn_of_ne {identity other : String} (differs : other ≠ identity)
    (key : RecipientKey) (entries : List (String × RecipientKey)) :
    loadFrom? other (storeIn identity key entries) = loadFrom? other entries := by
  induction entries with
  | nil => simp [storeIn, loadFrom?, differs.symm]
  | cons entry rest ih =>
    by_cases isHere : entry.1 = identity
    · have isElsewhere : entry.1 ≠ other := fun same => differs (same.symm.trans isHere)
      simp [storeIn, loadFrom?, isHere, differs.symm]
    · simp [storeIn, loadFrom?, isHere, ih]

instance : KeyStore KeyCache where
  load? cache identity := loadFrom? identity cache.entries
  store cache identity key := ⟨storeIn identity key cache.entries⟩

instance : LawfulKeyStore KeyCache where
  load?_store_self cache identity key := loadFrom?_storeIn_self identity key cache.entries
  load?_store_of_ne cache _ _ key differs := loadFrom?_storeIn_of_ne differs key cache.entries

end KeyCache
end SealedGateway
