import SealedGateway.Console.Screen
import SealedGateway.Settings

/-!
# The home page

The home page applies the log level of the settings and says what the console is for.
-/

namespace SealedGateway
namespace HomePage

/-- The purpose of the console. -/
def purpose : String :=
  "Cifrado extremo a extremo de mensajes para el gateway: NaCl box con relleno " ++
    "aleatorio para mensajes y secretbox para archivos."

/-- Applies the log level of the settings. -/
def applyLogLevel (settings : Settings) : Work Unit := fun context =>
  match settings.thresholds with
  | .ok thresholds => (.ok (), { context with thresholds })
  | .error failure => (.error failure, context)

/-- The home page. -/
def screen (settings : Settings) : Screen Unit := do
  Screen.perform (applyLogLevel settings)
  Screen.put (.window "Gateway E2E" "🔐" "centered")
  Screen.put (.title "🔐 Gateway E2E")
  Screen.put (.paragraph purpose)
  Screen.put (.info "Empieza en **Generar Claves** si todavía no tienes un par de claves.")

end HomePage
end SealedGateway
