import SealedGateway.Failure
import SealedGateway.Text.Uppercase
import SealedGateway.Work.Log

/-!
# Settings

The settings of a gateway come from four variables of the environment.  The name of the log
level is taken in upper case; it must be one of the known names, and then it holds for both
packages.
-/

namespace SealedGateway

/-- The settings of a gateway. -/
structure Settings where
  gatewayId : String
  secret : String
  privateKey : String
  logLevel : String
deriving DecidableEq

namespace Settings

/-- The value of a variable, or a default where it is not set. -/
def variableOr (fallback name : String) (environment : List (String × String)) : String :=
  match environment.find? fun entry => entry.1 = name with
  | some (_, value) => value
  | none => fallback

/-- The settings in an environment. -/
def ofEnvironment (environment : List (String × String)) : Settings :=
  { gatewayId := variableOr "" "GATEWAY_ID" environment
    secret := variableOr "" "GATEWAY_SECRET" environment
    privateKey := variableOr "" "GATEWAY_PRIVATE_KEY" environment
    logLevel := Text.upper (variableOr "WARNING" "LOG_LEVEL" environment) }

/-- The settings by the names of their variables. -/
def entries (settings : Settings) : List (String × String) :=
  [("GATEWAY_ID", settings.gatewayId), ("GATEWAY_SECRET", settings.secret),
    ("GATEWAY_PRIVATE_KEY", settings.privateKey), ("LOG_LEVEL", settings.logLevel)]

/-- The thresholds that the settings ask for. -/
def thresholds (settings : Settings) : Except Failure Thresholds :=
  match Thresholds.numberOf? settings.logLevel with
  | some number => .ok ⟨number, number⟩
  | none => .error (.badValue (.unknownLevel (Text.quote settings.logLevel)))

end Settings
end SealedGateway
