import SealedGateway.Text.Blank
import SealedGateway.Text.Wide

/-!
# Media types

A media type is two tokens with a slash between them, and perhaps parameters: blanks, a
semicolon and anything that holds no line feed.
-/

namespace SealedGateway
namespace MediaType

/-- The characters of a token. -/
def isTokenChar (char : Char) : Bool :=
  char.isAlphanum || char = '!' || char = '#' || char = '$' || char = '&' || char = '^' ||
    char = '_' || char = '.' || char = '+' || char = '-'

/-- Whether a symbol belongs to a token. -/
def isTokenSymbol : Symbol → Bool
  | .char char => isTokenChar char
  | .surrogate _ => false

/-- Whether a symbol is a blank. -/
def isBlankSymbol : Symbol → Bool
  | .char char => Text.isBlank char
  | .surrogate _ => false

/-- Whether a text is nothing or parameters. -/
def isParameters (text : WideText) : Bool :=
  match text with
  | [] => true
  | _ =>
    match text.dropWhile isBlankSymbol with
    | .char ';' :: rest => !rest.contains (.char '\n')
    | _ => false

/-- Whether a text is a media type. -/
def isMediaType (text : WideText) : Bool :=
  match text.takeWhile isTokenSymbol, text.dropWhile isTokenSymbol with
  | _ :: _, .char '/' :: subtype =>
    !(subtype.takeWhile isTokenSymbol).isEmpty && isParameters (subtype.dropWhile isTokenSymbol)
  | _, _ => false

end MediaType
end SealedGateway
