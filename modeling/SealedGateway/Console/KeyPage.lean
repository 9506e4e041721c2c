import SealedGateway.Console.Screen
import SealedGateway.Key.Pair

/-!
# The key page

The key page draws key pairs.  A private key is shown and kept nowhere.
-/

namespace SealedGateway
namespace KeyPage

/-- A key pair as it is shown. -/
def pairText (pair : KeyPair) : String :=
  "Pública: " ++ Hex.text pair.publicKey.octets.toList ++ "\nPrivada: " ++
    Hex.text pair.privateKey.octets.toList

/-- The key page. -/
def screen : Screen Unit := do
  Screen.put (.title "🔑 Generar claves")
  if ← Screen.askButton ⟨"Generar nuevo par de claves", none, some "btn_keygen"⟩ then
    let pair ← Screen.perform KeyPair.generate
    Screen.put (.code (pairText pair))
    Screen.put (.warning "Guarda la clave privada en un lugar seguro y no la compartas.")

end KeyPage
end SealedGateway
