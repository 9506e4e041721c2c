import SealedGateway.Bytes.Hex
import SealedGateway.Text.Pieces
import SealedGateway.Value

/-!
# Form bodies

The body of a webhook is a list of `name=value` segments between ampersands.  Empty segments are
passed over; a segment without `=` is refused.  In names and values a plus sign stands for a
blank and a percent sign before two hexadecimal digits for a byte; everything else stands for
itself, and the bytes between lone surrogates must be well-formed UTF-8.  No name may occur twice.
-/

namespace SealedGateway

/-- The fields of a form in order of appearance. -/
abbrev Form := List (WideText × WideText)

namespace Form

/-- The form with the given names and values. -/
def ofTexts (fields : List (String × String)) : Form :=
  fields.map fun (name, value) => (WideText.ofString name, WideText.ofString value)

/-- The segments of a body: the pieces between ampersands that are not empty. -/
def segments (text : WideText) : List WideText :=
  (Text.pieces (.char '&') text).filter fun segment => !segment.isEmpty

/-- A plus sign stands for a blank. -/
def plusToBlank (symbol : Symbol) : Symbol :=
  if symbol = .char '+' then .char ' ' else symbol

/-- The value of a hexadecimal digit. -/
def digitValue? (symbol : Symbol) : Option Nat :=
  symbol.toChar?.bind Hex.digitValue?

/-- The fragments that escaped text stands for. -/
def unescape : WideText → List Fragment
  | [] => []
  | symbol :: rest =>
    if symbol = .char '%' then
      match rest with
      | high :: low :: others =>
        match digitValue? high, digitValue? low with
        | some highValue, some lowValue =>
          .byte (UInt8.ofNat (16 * highValue + lowValue)) :: unescape others
        | _, _ => symbol.fragments ++ unescape (high :: low :: others)
      | rest => symbol.fragments ++ unescape rest
    else symbol.fragments ++ unescape rest

/-- The text that a name or a value stands for. -/
def decodeText? (text : WideText) : Option WideText :=
  WideText.ofFragments? (unescape (text.map plusToBlank))

/-- The field that a segment stands for. -/
def decodeSegment? (segment : WideText) : Option (WideText × WideText) :=
  match Text.cutFirst? (.char '=') segment with
  | none => none
  | some (name, value) =>
    match decodeText? name, decodeText? value with
    | some name, some value => some (name, value)
    | _, _ => none

/-- The greatest number of fields in a form. -/
def fieldLimit : Nat := 32

/-- The fields of a body, with names that may still occur twice. -/
def decode? (text : WideText) : Option Form :=
  let segments := segments text
  if segments.length ≤ fieldLimit then segments.mapM decodeSegment? else none

/-- The first name that has occurred before. -/
def duplicate? (seen : List WideText) : Form → Option WideText
  | [] => none
  | (name, _) :: rest => if seen.contains name then some name else duplicate? (name :: seen) rest

/-- The form that a text stands for. -/
def parse (text : WideText) : Except ParseFault Form :=
  match decode? text with
  | none => .error .malformedForm
  | some form =>
    match duplicate? [] form with
    | some name => .error (.duplicateField name)
    | none => .ok form

/-- The form in the body of a request: text, or bytes in UTF-8. -/
def ofBody (body : Value) : Except Failure Form :=
  let text? : Except Failure (Option WideText) := match body with
    | .text text => .ok (some text)
    | body =>
      match body.byteString? with
      | some bytes => .ok ((Utf8.decodeChars? bytes).map WideText.ofChars)
      | none => .error .lacksOperation
  match text? with
  | .error failure => .error failure
  | .ok none => .error (.malformed .malformedForm)
  | .ok (some text) =>
    match parse text with
    | .ok form => .ok form
    | .error fault => .error (.malformed fault)

/-- The value of a field. -/
def find? (form : Form) (name : String) : Option WideText :=
  (List.find? (fun field => field.1 = WideText.ofString name) form).map Prod.snd

end Form
end SealedGateway
