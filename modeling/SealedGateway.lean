import SealedGateway.Bytes.Basic
import SealedGateway.Bytes.Hex
import SealedGateway.Text.Utf8
import SealedGateway.Text.Wide
import SealedGateway.Text.Blank
import SealedGateway.Text.Printable
import SealedGateway.Text.Digits
import SealedGateway.Text.Uppercase
import SealedGateway.Text.Quoted
import SealedGateway.Decimal.Binary64
import SealedGateway.Decimal.Shortest
import SealedGateway.Decimal.Numeral
import SealedGateway.Message.Kind
import SealedGateway.Failure
import SealedGateway.Crypto.Salsa20
import SealedGateway.Crypto.Poly1305
import SealedGateway.Crypto.Curve25519
import SealedGateway.Crypto.SecretBox
import SealedGateway.Crypto.Sha256
import SealedGateway.Identifier
import SealedGateway.Descriptor.Metadata
import SealedGateway.Value
import SealedGateway.Work.Entropy
import SealedGateway.Work.Log
import SealedGateway.Work.Basic
import SealedGateway.Message.Padding
import SealedGateway.Key.Reading
import SealedGateway.Json.Basic
import SealedGateway.Json.Printer
import SealedGateway.Json.Parser
import SealedGateway.Json.Encoding
import SealedGateway.Field
import SealedGateway.Descriptor.MediaType
import SealedGateway.Descriptor.Basic
import SealedGateway.Descriptor.Wire
import SealedGateway.Key.Pair
import SealedGateway.Message.Envelope
import SealedGateway.Message.Sending
import SealedGateway.Message.Opening
import SealedGateway.File.Basic
import SealedGateway.Key.Holder
import SealedGateway.Key.Store
import SealedGateway.Value.Equality
import SealedGateway.Webhook.Form
import SealedGateway.Webhook.Mac
import SealedGateway.Webhook.Incoming
import SealedGateway.Webhook.Intake
import SealedGateway.Directory
import SealedGateway.Settings
import SealedGateway.Gateway.Basic
import SealedGateway.Text.Pieces
import SealedGateway.FileName.Address
import SealedGateway.FileName.Locator
import SealedGateway.FileName.Suffix
import SealedGateway.Console.Element
import SealedGateway.Console.Screen
import SealedGateway.Console.HomePage
import SealedGateway.Console.KeyPage
import SealedGateway.Console.SendingPage
import SealedGateway.Console.ReceivingPage
import SealedGateway.Webhook.Signing
import SealedGateway.Proofs.Text.Utf8
import SealedGateway.Proofs.Text.Wide
import SealedGateway.Proofs.Text.Blank
import SealedGateway.Proofs.Bytes.Hex
import SealedGateway.Proofs.Decimal.DigitRun
import SealedGateway.Proofs.Work.Outcomes
import SealedGateway.Proofs.Webhook.WrittenForm
import SealedGateway.Proofs.Webhook.SignedTexts
import SealedGateway.Proofs.Webhook.Acceptance
import SealedGateway.Proofs.Webhook.SignedBody
import SealedGateway.Proofs.Webhook.FormLanguage
import SealedGateway.Proofs.Webhook.PlainForm
import SealedGateway.Proofs.Webhook.Language
import SealedGateway.Proofs.Webhook.Refusals
import SealedGateway.Proofs.Webhook.FieldBoundaries
import SealedGateway.Proofs.Webhook.Noninterference
import SealedGateway.Proofs.Message.Padding
import SealedGateway.Proofs.Message.PaddedForm
import SealedGateway.Proofs.Message.Boxes
import SealedGateway.Proofs.Message.Reopening
import SealedGateway.Proofs.Webhook.Opened
import SealedGateway.Proofs.Work.Faults
import SealedGateway.Proofs.Message.Refusals
import SealedGateway.Proofs.Message.Carried
import SealedGateway.Proofs.Message.Receipt
import SealedGateway.Proofs.Message.Image
import SealedGateway.Proofs.Gateway.LengthCheck
import SealedGateway.Proofs.Gateway.Delivery
import SealedGateway.Proofs.File.Locking
import SealedGateway.Proofs.File.Opening
import SealedGateway.Proofs.Entropy.Stretch
import SealedGateway.Proofs.Entropy.Draws
import SealedGateway.Proofs.Entropy.Operations
import SealedGateway.Proofs.Entropy.Calls
import SealedGateway.Proofs.Entropy.Amounts
import SealedGateway.Proofs.Decimal.Rounding
import SealedGateway.Proofs.Decimal.Layout
import SealedGateway.Proofs.Json.Numerals
import SealedGateway.Proofs.Json.Quoted
import SealedGateway.Proofs.Json.Scalars
import SealedGateway.Proofs.Json.RoundTrip
import SealedGateway.Proofs.Json.Leaves
import SealedGateway.Proofs.Json.Depth
import SealedGateway.Proofs.Json.NestingLimit
import SealedGateway.Proofs.Json.Encoding
import SealedGateway.Proofs.Descriptor.Fields
import SealedGateway.Proofs.Descriptor.Wire
import SealedGateway.Proofs.Descriptor.RoundTrip
import SealedGateway.Proofs.Descriptor.Resending
import SealedGateway.Proofs.Gateway.FileFlow
import SealedGateway.Proofs.Descriptor.MediaType
import SealedGateway.Proofs.Descriptor.Rules
import SealedGateway.Proofs.Descriptor.Receiving
import SealedGateway.Proofs.Descriptor.MediaTypeRefusals
import SealedGateway.Proofs.Key.Resolution
import SealedGateway.Proofs.Key.Forms
import SealedGateway.Proofs.Key.Lifecycle
import SealedGateway.Proofs.Key.Spelling
import SealedGateway.Proofs.Log.Records
import SealedGateway.Proofs.Log.Secrecy
import SealedGateway.Proofs.Console.Parts
import SealedGateway.Proofs.Console.SendingStages
import SealedGateway.Proofs.Console.PendingFile
import SealedGateway.Proofs.Console.SendingFailures
import SealedGateway.Proofs.Console.ReceivingStages
import SealedGateway.Proofs.Console.ReceivedMessage
