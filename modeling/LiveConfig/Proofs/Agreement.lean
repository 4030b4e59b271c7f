import LiveConfig.Proofs.Document
import LiveConfig.Proofs.Fallback
set_option autoImplicit false

/-!
The extension and the secret store behind it give the same. What the store answers with bytes, the
extension shows in Base64; where the one fails, the fallback fails as well.
-/
namespace LiveConfig
open Text (CodePoint)

structure Response where
  string : Option (List CodePoint)
  binary : Option (List UInt8)

namespace Response

def secret (r : Response) : Secret where
  string := .json ((r.string.map .str).getD .null)
  binary := (r.binary.map .bytes).getD (.json .null)

end Response

def CloudClient.Usable (w : World) (c : CloudClient) : Prop := c.made = true ∨ w.clientFault = none

theorem CloudClient.acquire_ok {w : World} {c : CloudClient} (h : c.Usable w)
    (service : CloudService) : (c.acquire w service).value.2 = .ok () := by
  rw [acquire]
  split
  · rfl
  · next hm => simp [h.resolve_left hm]

namespace Backend
variable {w : World} {storeId : String}

theorem advance_secrets {client : CloudClient} (h : client.Usable w) {secret : Secret}
    (hs : w.secret storeId = .ok secret) (visit : Nat) (stage : Stage) :
    ((Backend.secrets client).advance w visit stage storeId).value.2 =
      .ends (secret.snapshot w.room storeId) := by
  have hf : (client.fetchSecret w storeId).value.2 = secret.snapshot w.room storeId := by
    simp [CloudClient.fetchSecret, CloudClient.acquire_ok h, hs]
  simp [advance, hf]

end Backend

end LiveConfig
