import SealedGateway.Key.Reading

/-!
# Equality of values

Numbers are equal across their kinds, and so are the two kinds of byte strings.  Keys and
identifiers equal only values of their own kind; private keys are equal when their public keys
are.  A value that its owner may change has no place in a set.
-/

namespace SealedGateway

namespace Binary64

/-- Whether two values are equal as numbers: zeros of either sign are, and what is not a number
equals nothing. -/
def isEqual (left right : Binary64) : Bool :=
  match left, right with
  | nan, _ | _, nan => false
  | left, right => left == right || (left.isZero && right.isZero)

end Binary64

namespace Value

/-- Whether a value is a number. -/
def isNumber : Value → Bool
  | real _ => true
  | value => value.index?.isSome

/-- Whether two values without elements are equal. -/
def isEqualSimple (left right : Value) : Bool :=
  match left, right with
  | null, null => true
  | text left, text right => left == right
  | blobId left, blobId right => left == right
  | symmetricKey left, symmetricKey right => left == right
  | recipientKey left, recipientKey right => left == right
  | publicKey left, publicKey right => left == right
  | privateKey left, privateKey right => left.publicKey == right.publicKey
  | metadata left, metadata right =>
    left.animated == right.animated && left.height == right.height && left.width == right.width &&
      match left.duration, right.duration with
      | none, none => true
      | some left, some right => left.seconds.isEqual right.seconds
      | _, _ => false
  | real left, real right => left.isEqual right
  | left, right =>
    match left.equalInt?, right.equalInt? with
    | some leftNumber, some rightNumber => leftNumber == rightNumber
    | _, _ =>
      match left.byteString?, right.byteString? with
      | some leftBytes, some rightBytes => leftBytes == rightBytes
      | _, _ => false

mutual

/-- Whether two values are equal. -/
def isEqual : Value → Value → Bool
  | list left, right =>
    match right with
    | list right => areEqual left right
    | _ => false
  | dict left, right =>
    match right with
    | dict right => left.length == right.length && isWithin left right
    | _ => false
  | left, right => isEqualSimple left right

/-- Whether two lists have equal elements in order. -/
def areEqual : List Value → List Value → Bool
  | [], [] => true
  | first :: rest, other :: others => isEqual first other && areEqual rest others
  | _, _ => false

/-- Whether every entry of a dictionary is in another one. -/
def isWithin : List (WideText × Value) → List (WideText × Value) → Bool
  | [], _ => true
  | (name, value) :: rest, entries =>
    (match entries.find? fun entry => entry.1 = name with
      | some (_, other) => isEqual value other
      | none => false) && isWithin rest entries

end

/-- Whether a value can stand in a set. -/
def isFixed : Value → Bool
  | list _ | dict _ | buffer _ | symmetricKey _ => false
  | _ => true

/-- Whether a value is a file key. -/
def isFileKey : Value → Bool
  | symmetricKey _ => true
  | _ => false

/-- One value of each group of equal ones, in order of first appearance. -/
def distinct (values : List Value) : List Value :=
  values.foldl (fun kept value => if kept.any value.isEqual then kept else kept ++ [value]) []

/-- How many different values a list holds; it must hold only values that can stand in a set. -/
def distinctCount (values : List Value) : Except Failure Nat :=
  if values.all isFixed then .ok (distinct values).length else .error .wrongKind

end Value
end SealedGateway
