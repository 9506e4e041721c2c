import SealedGateway.Bytes.Hex
import SealedGateway.Failure
import SealedGateway.Text.Digits
import SealedGateway.Text.Pieces

/-!
# Numeric host addresses

A host in brackets is an address in groups of hexadecimal digits, possibly with a zone, or an
address of a version to come.  A dotted address does not stand in brackets.
-/

namespace SealedGateway
namespace Address

/-- Whether a text is a decimal number below 256 without zeros at its head. -/
def isDecimalOctet (chars : List Char) : Bool :=
  !chars.isEmpty && chars.all Text.isAsciiDigit && chars.length ≤ 3 &&
    (chars = ['0'] || chars.head? ≠ some '0') &&
    chars.foldl (fun value digit => 10 * value + (digit.toNat - 48)) 0 ≤ 255

/-- Whether a text is a dotted address. -/
def isDotted (chars : List Char) : Bool :=
  let octets := Text.pieces '.' chars
  octets.length = 4 && octets.all isDecimalOctet

/-- Whether a text is a group of one to four hexadecimal digits. -/
def isGroup (chars : List Char) : Bool :=
  !chars.isEmpty && chars.length ≤ 4 && chars.all fun char => (Hex.digitValue? char).isSome

/-- The groups of an address, with a dotted end replaced by two groups. -/
def groups? (chars : List Char) : Option (List (List Char)) :=
  let parts := Text.pieces ':' chars
  if parts.length < 3 then none
  else
    match parts.getLast? with
    | some last =>
      if last.contains '.' then
        if isDotted last then some (parts.dropLast ++ [['0'], ['0']]) else none
      else some parts
    | none => none

/-- The groups on one side of a gap: none if the gap stands at the end. -/
def sideOfGap (groups : List (List Char)) : List (List Char) :=
  if groups = [[]] then [] else groups

/-- Whether groups make an address: eight groups, or fewer with one gap for the zeros between. -/
def areAddress (groups : List (List Char)) : Bool :=
  let inner := (groups.drop 1).dropLast
  match inner.findIdx? List.isEmpty with
  | none => groups.length = 8 && groups.all isGroup
  | some place =>
    let kept := sideOfGap (groups.take (place + 1)) ++ sideOfGap (groups.drop (place + 2))
    kept.length ≤ 7 && kept.all isGroup

/-- Whether a text is an address in groups, with a zone or without. -/
def isGrouped (chars : List Char) : Bool :=
  let (address, zoneIsGood) := match Text.cutFirst? '%' chars with
    | some (address, zone) => (address, !zone.isEmpty && !zone.contains '%')
    | none => (chars, true)
  zoneIsGood && !chars.contains '/' &&
    match groups? address with
    | some groups => areAddress groups
    | none => false

/-- Whether a text behind the letter `v` is an address of a version to come. -/
def isFuture (chars : List Char) : Bool :=
  let version := chars.takeWhile fun char => (Hex.digitValue? char).isSome
  match chars.drop version.length with
  | '.' :: address => !version.isEmpty && !address.isEmpty
  | _ => false

/-- The fault of a host in brackets, if it has one. -/
def fault? : List Char → Option ValueFault
  | 'v' :: rest => if isFuture rest then none else some .badFutureAddress
  | host =>
    if isDotted host then some .dottedAddress
    else if isGrouped host then none
    else some (.unreadableAddress (Text.quote (String.ofList host)))

end Address
end SealedGateway
