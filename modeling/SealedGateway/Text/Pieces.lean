/-!
# Cutting text

Text is cut at separators: into all its pieces, or once at the first or the last occurrence.
-/

namespace SealedGateway
namespace Text

variable {α : Type} [DecidableEq α]

/-- The pieces of a text between the occurrences of a separator. -/
def pieces (separator : α) : List α → List (List α)
  | [] => [[]]
  | symbol :: rest =>
    if symbol = separator then [] :: pieces separator rest
    else
      match pieces separator rest with
      | [] => [[symbol]]
      | piece :: others => (symbol :: piece) :: others

/-- The two sides of the first occurrence of a separator. -/
def cutFirst? (separator : α) : List α → Option (List α × List α)
  | [] => none
  | symbol :: rest =>
    if symbol = separator then some ([], rest)
    else (cutFirst? separator rest).map fun (before, behind) => (symbol :: before, behind)

/-- The two sides of the last occurrence of a separator. -/
def cutLast? (separator : α) : List α → Option (List α × List α)
  | [] => none
  | symbol :: rest =>
    match cutLast? separator rest with
    | some (before, behind) => some (symbol :: before, behind)
    | none => if symbol = separator then some ([], rest) else none

/-- What stands before the first occurrence of a separator, or the whole text. -/
def before (separator : α) (text : List α) : List α :=
  text.takeWhile (· ≠ separator)

end Text
end SealedGateway
