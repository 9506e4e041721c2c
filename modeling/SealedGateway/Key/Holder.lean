import SealedGateway.Key.Reading
import SealedGateway.Work.Basic

/-!
# The life of a file key

A file key is held in one place.  It is put there by drawing or reading a key, and it is wiped
by overwriting its bytes with zeros, also at the end of a block that uses it, however the block
ends.  A step that fails to make a key leaves the held one as it is.
-/

namespace SealedGateway

/-- What can be done to a held key. -/
inductive KeyStep
  | generate
  | readBytes (value : Value)
  | readText (value : Value)
  | wipe
  /-- A block that uses the key and may end with a failure of its own. -/
  | block (raised : Option Failure)
  | compare (value : Value)

/-- What a step shows. -/
inductive KeyReport
  | held (key : Option SymmetricKey)
  /-- The key as a block sees it. -/
  | inside (key : SymmetricKey)
  | equal (isEqual : Bool)
  | failed (failure : Failure) (key : Option SymmetricKey)
deriving DecidableEq

namespace SymmetricKey

/-- Draws a new key. -/
def generate : Work SymmetricKey := do
  let octets ← Work.draw 32
  return ⟨octets⟩

/-- Whether a value is a key with the same bytes. -/
def equalsValue (key : SymmetricKey) : Value → Bool
  | .symmetricKey other => key == other
  | _ => false

end SymmetricKey

/-- The place that holds a key, if there is one, and the context in which it is used. -/
structure KeyHolder where
  /-- The held key. -/
  key : Option SymmetricKey
  /-- The context in which keys are drawn. -/
  context : Context
deriving DecidableEq

namespace KeyHolder

/-- Puts a newly made key in place, unless making it failed. -/
def replace (holder : KeyHolder) (made : Except Failure SymmetricKey) :
    List KeyReport × KeyHolder :=
  match made with
  | .ok key => ([.held (some key)], { holder with key := some key })
  | .error failure => ([.failed failure holder.key], holder)

/-- The holder with its key overwritten. -/
def wiped (holder : KeyHolder) : KeyHolder :=
  { holder with key := holder.key.map SymmetricKey.wiped }

/-- A fault of a key as a failure. -/
def ofReading (reading : Except KeyFault SymmetricKey) : Except Failure SymmetricKey :=
  match reading with
  | .ok key => .ok key
  | .error fault => .error (.badKey fault)

/-- One step: what it shows and the holder afterwards. -/
def step (holder : KeyHolder) : KeyStep → List KeyReport × KeyHolder
  | .generate =>
    let (made, context) := SymmetricKey.generate.perform holder.context
    replace { holder with context } made
  | .readBytes value => holder.replace (ofReading (SymmetricKey.ofBytes value))
  | .readText value => holder.replace (ofReading (SymmetricKey.ofText value))
  | .wipe =>
    match holder.key with
    | none => ([.failed .lacksOperation none], holder)
    | some _ => ([.held holder.wiped.key], holder.wiped)
  | .block raised =>
    match holder.key, raised with
    | none, _ => ([.failed .wrongKind none], holder)
    | some key, none => ([.inside key, .held holder.wiped.key], holder.wiped)
    | some key, some failure => ([.inside key, .failed failure holder.wiped.key], holder.wiped)
  | .compare value =>
    match holder.key, value with
    | none, .null => ([.equal true], holder)
    | none, _ => ([.equal false], holder)
    | some key, value => ([.equal (key.equalsValue value)], holder)

/-- Steps in order: all they show and the holder afterwards. -/
def run (holder : KeyHolder) : List KeyStep → List KeyReport × KeyHolder
  | [] => ([], holder)
  | first :: rest =>
    let (shown, holder) := holder.step first
    let (shownAfter, holder) := holder.run rest
    (shown ++ shownAfter, holder)

end KeyHolder
end SealedGateway
