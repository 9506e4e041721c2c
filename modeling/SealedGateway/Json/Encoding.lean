import SealedGateway.Text.Wide

/-!
# The encoding of JSON bytes

The first bytes tell which Unicode encoding a JSON document has: a mark at the head, or else the
places of zero bytes among the first four.  Surrogate code points that stand alone are read as
lone surrogates in every encoding.
-/

namespace SealedGateway
namespace Json

/-- The encodings a document may have; the flag says whether the heavier byte comes first. -/
inductive Encoding
  | utf8
  | utf16 (bigEndian : Bool)
  | utf32 (bigEndian : Bool)
deriving DecidableEq

/-- The encoding of a document without a mark, by the places of its zero bytes. -/
def guessEncoding : Bytes → Encoding
  | first :: second :: third :: fourth :: _ =>
    if first = 0 then (if second = 0 then .utf32 true else .utf16 true)
    else if second = 0 then (if third = 0 ∧ fourth = 0 then .utf32 false else .utf16 false)
    else .utf8
  | [first, second] =>
    if first = 0 then .utf16 true else if second = 0 then .utf16 false else .utf8
  | _ => .utf8

/-- The encoding of a document and the document without the mark at its head. -/
def detectEncoding : Bytes → Encoding × Bytes
  | 0x00 :: 0x00 :: 0xFE :: 0xFF :: rest => (.utf32 true, rest)
  | 0xFF :: 0xFE :: 0x00 :: 0x00 :: rest => (.utf32 false, rest)
  | 0xFE :: 0xFF :: rest => (.utf16 true, rest)
  | 0xFF :: 0xFE :: rest => (.utf16 false, rest)
  | 0xEF :: 0xBB :: 0xBF :: rest => (.utf8, rest)
  | document => (guessEncoding document, document)

/-- The numbers written by pairs of bytes; nothing if a byte is left over. -/
def units16? (bigEndian : Bool) : Bytes → Option (List Nat)
  | [] => some []
  | [_] => none
  | first :: second :: rest =>
    let value :=
      if bigEndian then first.toNat * 0x100 + second.toNat else second.toNat * 0x100 + first.toNat
    (units16? bigEndian rest).map (value :: ·)

/-- The numbers written by four bytes each; nothing if bytes are left over. -/
def units32? (bigEndian : Bool) : Bytes → Option (List Nat)
  | [] => some []
  | a :: b :: c :: d :: rest =>
    let heavyFirst := fun (a b c d : UInt8) =>
      a.toNat * 0x1000000 + b.toNat * 0x10000 + c.toNat * 0x100 + d.toNat
    let value := if bigEndian then heavyFirst a b c d else heavyFirst d c b a
    (units32? bigEndian rest).map (value :: ·)
  | _ => none

/-- The code points of UTF-16 numbers: neighbours that form a pair are one code point. -/
def pairUnits : List Nat → List Nat
  | [] => []
  | [unit] => [unit]
  | high :: low :: rest =>
    if 0xD800 ≤ high ∧ high < 0xDC00 ∧ 0xDC00 ≤ low ∧ low < 0xE000 then
      (0x10000 + (high - 0xD800) * 0x400 + (low - 0xDC00)) :: pairUnits rest
    else high :: pairUnits (low :: rest)

/-- The code points of a document; nothing if it is not well-formed. -/
def codes? : Encoding → Bytes → Option (List Nat)
  | .utf8, document => (Utf8.units true document).mapM id
  | .utf16 bigEndian, document => (units16? bigEndian document).map pairUnits
  | .utf32 bigEndian, document => units32? bigEndian document

/-- The text of a document. -/
def decodeDocument? (document : Bytes) : Option WideText :=
  let (encoding, body) := detectEncoding document
  (codes? encoding body).bind fun codes => codes.mapM Symbol.ofCode?

end Json
end SealedGateway
