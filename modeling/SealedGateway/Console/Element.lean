import SealedGateway.Json.Basic

/-!
# Elements of a screen

A screen is a list of elements from top to bottom: texts, notices, data, and the widgets that
ask the operator for answers.
-/

namespace SealedGateway

/-- A field for one line of text. -/
structure TextField where
  /-- The text beside the field. -/
  label : String
  /-- The text that stands in the field at first, if one is given. -/
  initialText : Option String
  /-- Whether what is typed is hidden. -/
  isHidden : Bool
  /-- The name of the answer, if it differs from the label. -/
  name : Option String
deriving DecidableEq

/-- A field with a label and nothing else. -/
def TextField.plain (label : String) : TextField := ⟨label, none, false, none⟩

/-- A button. -/
structure Button where
  /-- The text on the button. -/
  label : String
  /-- Whether the button is out of use, if that is decided at all. -/
  isDisabled : Option Bool
  /-- The name of the answer, if it differs from the label. -/
  name : Option String
deriving DecidableEq

/-- A value that is shown beside its label. -/
inductive Shown
  | text (value : WideText)
  | number (value : Nat)
deriving DecidableEq

/-- An element of a screen. -/
inductive Element
  /-- The title, the icon and the layout of the window. -/
  | window (title icon layout : String)
  | title (text : String)
  | paragraph (text : String)
  | entry (label : String) (value : Shown)
  | info (text : String)
  | success (text : String)
  | warning (text : String)
  | error (text : WideText)
  | caption (text : String)
  | code (text : String)
  /-- The entries of a record. -/
  | record (entries : List (WideText × Json))
  | textField (field : TextField)
  /-- A field for several lines of text. -/
  | textArea (label : String)
  | button (button : Button)
  | uploader (label : String)
  | tabs (labels : List String)
  /-- A file that is offered for download. -/
  | download (label : String) (content : Bytes) (fileName : String)

end SealedGateway
