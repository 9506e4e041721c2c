import SealedGateway.Crypto.Sha256
import SealedGateway.Webhook.Form

/-!
# Message authentication

A webhook carries the keyed digest of six of its fields, one after the other in a fixed order.
The key is the secret of the receiving gateway.
-/

namespace SealedGateway
namespace Mac

/-- The names of the authenticated fields, in the order in which the digest takes them. -/
def fieldNames : List String := ["from", "to", "messageId", "date", "nonce", "box"]

/-- The bytes of the named fields one after the other, if the form has all of them and all of them
have a UTF-8 form. -/
def inputOf (form : Form) : List String → Except Failure Bytes
  | [] => .ok []
  | name :: rest =>
    match form.find? name with
    | none => .error (.missing name)
    | some value =>
      match value.encode? with
      | none => .error .unencodable
      | some bytes => (inputOf form rest).map fun others => bytes ++ others

/-- The authenticated bytes of a form. -/
def input (form : Form) : Except Failure Bytes := inputOf form fieldNames

/-- The keyed digest of a form under a secret. -/
def compute (form : Form) (secret : String) : Except Failure (Octets 32) :=
  (input form).map fun bytes => Sha256.authenticate (Utf8.encode secret) bytes

/-- The bytes that a text writes in exactly sixty-four hexadecimal digits. -/
def read? (text : WideText) : Option (Octets 32) :=
  (text.toChars?.bind Hex.decode?).bind (Octets.ofList? 32)

end Mac
end SealedGateway
