/-!
# Blank characters

Three sets of blanks occur.  `isBlank` is the set that trimming and the media type pattern use;
`isWhiteSpace` is the Unicode property of that name, which leaves out the four information
separators; the blanks between the tokens of a descriptor are four ASCII characters only.
-/

namespace SealedGateway
namespace Text

/-- The characters with the Unicode property `White_Space`. -/
def isWhiteSpace (char : Char) : Bool :=
  let code := char.toNat
  (0x09 ≤ code && code ≤ 0x0D) || code == 0x20 || code == 0x85 || code == 0xA0 ||
    code == 0x1680 || (0x2000 ≤ code && code ≤ 0x200A) || code == 0x2028 || code == 0x2029 ||
    code == 0x202F || code == 0x205F || code == 0x3000

/-- The characters with the property `White_Space`, and the four information separators. -/
def isBlank (char : Char) : Bool :=
  isWhiteSpace char || (0x1C ≤ char.toNat && char.toNat ≤ 0x1F)

/-- A text without the characters of a class at its ends. -/
def trim (isRemoved : Char → Bool) (chars : List Char) : List Char :=
  ((chars.dropWhile isRemoved).reverse.dropWhile isRemoved).reverse

/-- A text without blanks at its ends. -/
def strip (text : String) : String :=
  String.ofList (trim isBlank text.toList)

end Text
end SealedGateway
