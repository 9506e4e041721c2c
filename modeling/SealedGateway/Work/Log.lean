import SealedGateway.Text.Wide

/-!
# Log records

Operations leave records for whoever runs them.  A record names its level and the part of the
library that wrote it; it is kept when its level reaches the threshold of that part's package.
-/

namespace SealedGateway

/-- The levels at which records are written. -/
inductive LogLevel
  | debug
  | warning
deriving DecidableEq

namespace LogLevel

/-- The number that thresholds are compared with. -/
def number : LogLevel → Nat
  | debug => 10
  | warning => 30

/-- The name of a level. -/
def name : LogLevel → String
  | debug => "DEBUG"
  | warning => "WARNING"

end LogLevel

/-- The parts of the library that write records. -/
inductive LogSource
  | publicBox
  | fileBox
  | intake
  | service
deriving DecidableEq

namespace LogSource

/-- The name under which a part writes. -/
def name : LogSource → String
  | publicBox => "gateway_core.crypto_box"
  | fileBox => "gateway_core.crypto_sym"
  | intake => "gateway_core.receive"
  | service => "gateway_api.services"

end LogSource

/-- One record. -/
structure LogRecord where
  /-- How serious the record is. -/
  level : LogLevel
  /-- The part that wrote it. -/
  source : LogSource
  /-- The text of the record. -/
  message : WideText
deriving DecidableEq

/-- A record on one line. -/
def LogRecord.line (record : LogRecord) : WideText :=
  WideText.ofString (record.level.name ++ " " ++ record.source.name ++ ": ") ++ record.message

/-- The thresholds of the two packages; zero leaves the threshold to the default one. -/
structure Thresholds where
  core : Nat
  api : Nat
deriving DecidableEq

namespace Thresholds

/-- The threshold that holds where none is set. -/
def default : Nat := 30

/-- The thresholds before any configuration. -/
def initial : Thresholds := ⟨default, default⟩

/-- The threshold that holds for a part. -/
def effective (thresholds : Thresholds) (source : LogSource) : Nat :=
  let chosen := match source with
    | .service => thresholds.api
    | _ => thresholds.core
  if chosen = 0 then default else chosen

/-- Whether a record is kept. -/
def admits (thresholds : Thresholds) (record : LogRecord) : Bool :=
  thresholds.effective record.source ≤ record.level.number

/-- The number of a level that settings can name. -/
def numberOf? (name : String) : Option Nat :=
  match name with
  | "CRITICAL" | "FATAL" => some 50
  | "ERROR" => some 40
  | "WARN" | "WARNING" => some 30
  | "INFO" => some 20
  | "DEBUG" => some 10
  | "NOTSET" => some 0
  | _ => none

end Thresholds
end SealedGateway
