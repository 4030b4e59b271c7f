import LiveConfig.Backend.Cache
import LiveConfig.Backend.Cloud
import LiveConfig.Backend.Extension
import LiveConfig.Backend.Scripted
set_option autoImplicit false

/-! Backends: each fetches the whole snapshot of a store from one kind of place. -/
namespace LiveConfig

inductive Backend where
  | secrets (client : CloudClient)
  | parameters (client : CloudClient)
  | cache (address : CacheAddress)
  | extension (endpoint : Extension) (fallback : Backend)
  | empty
  | scripted (double : Scripted)
  deriving Repr

namespace Backend

def kindName : Backend → String
  | .secrets _ => "AwsSecretsManagerBackend"
  | .parameters _ => "AwsParameterStoreBackend"
  | .cache _ => "ValkeyConfigBackend"
  | .extension _ _ => "AwsLambdaExtensionBackend"
  | .empty => "EmptyConfigBackend"
  | .scripted _ => "MockConfigBackend"

def label : Backend → String
  | .cache a => s!"ValkeyConfigBackend(host={Text.quoted a.host}, port={a.port})"
  | b => b.kindName ++ "()"

/-- The secret store behind a client of its own. -/
def freshSecrets : Backend := .secrets (.fresh none)

/-- Moves a visit on as far as it comes. Only a test double holds one back; all other backends
end it at once. The extension hands a failed attempt to its fallback, and later stages are the
fallback's. -/
def advance (w : World) (b : Backend) (visit : Nat) (stage : Stage) (storeId : String) :
    Journaled (Backend × Progress) :=
  match b with
  | .secrets client => do
    let (client, outcome) ← client.fetchSecret w storeId
    pure (.secrets client, .ends outcome)
  | .parameters client => do
    let (client, outcome) ← client.fetchParameters w storeId
    pure (.parameters client, .ends outcome)
  | .cache address => do
    let outcome ← address.fetch w storeId
    pure (.cache address, .ends outcome)
  | .empty => pure (.empty, .ends (.ok .empty))
  | .scripted double =>
    let (double, progress) := double.advance visit stage storeId
    pure (.scripted double, progress)
  | .extension endpoint fallback =>
    if stage = .arriving then do
      match ← endpoint.attempt w storeId with
      | .ok snapshot => pure (.extension endpoint fallback, .ends (.ok snapshot))
      | .error f =>
        if Extension.fallsBack f then do
          Journaled.say (.extensionFailed storeId f.text)
          let (fallback, progress) ← fallback.advance w visit .arriving storeId
          pure (.extension endpoint fallback, progress)
        else pure (.extension endpoint fallback, .ends (.error f))
    else do
      let (fallback, progress) ← fallback.advance w visit stage storeId
      pure (.extension endpoint fallback, progress)

def onDouble (f : Scripted → Scripted) : Backend → Backend
  | .scripted double => .scripted (f double)
  | .extension endpoint fallback => .extension endpoint (fallback.onDouble f)
  | b => b

def free (f : Scripted → Scripted × List Nat) : Backend → Backend × List Nat
  | .scripted double => (.scripted (f double).1, (f double).2)
  | .extension endpoint fallback => (.extension endpoint (fallback.free f).1, (fallback.free f).2)
  | b => (b, [])

def double? : Backend → Option Scripted
  | .scripted double => some double
  | .extension _ fallback => fallback.double?
  | _ => none

end Backend

end LiveConfig
