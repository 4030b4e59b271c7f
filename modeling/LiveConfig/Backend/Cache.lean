import LiveConfig.Environment
import LiveConfig.Journal
import LiveConfig.World
set_option autoImplicit false

/-! The key-value cache for development: a key whose value is a JSON object. -/
namespace LiveConfig

structure CacheAddress where
  host : String
  port : Int
  deriving DecidableEq, Repr

namespace CacheAddress

def hostVariable : String := "CELERITY_CONFIG_VALKEY_HOST"
def portVariable : String := "CELERITY_CONFIG_VALKEY_PORT"

def defaultHost : String := "localhost"
def defaultPort : Nat := 6379

/-- A port as text. Nothing means the default; so does what is no port, with a warning. -/
def readPort (raw : Option String) : Journaled Nat :=
  match raw.filter (· ≠ "") with
  | none => pure defaultPort
  | some raw =>
    match Text.readTrimmedInteger raw with
    | some n =>
      if 0 < n ∧ n < 65536 then pure n.toNat
      else do
        Journaled.say (.invalidPort raw)
        pure defaultPort
    | none => do
      Journaled.say (.invalidPort raw)
      pure defaultPort

/-- An address of which each part may be given. What is missing comes from the process
environment; an empty host and the port zero are missing. -/
def complete (process : Environment) (host : Option String) (port : Option Int) :
    Journaled CacheAddress := do
  let host := (host.filter (· ≠ "")).getD ((process.get? hostVariable).getD defaultHost)
  match port.filter (· ≠ 0) with
  | some port => pure ⟨host, port⟩
  | none => do
    let port ← readPort (process.get? portVariable)
    pure ⟨host, port⟩

def unavailable (a : CacheAddress) (f : CacheFault) : String :=
  s!"{a.host}:{a.port} unavailable: {f.text}"

/-- What a fault of the cache means for a store. Faults that are not of the cache
protocol stay what they are. -/
def fault (a : CacheAddress) (storeId : String) (f : RemoteFault) : Fault :=
  match f with
  | .cache (.authentication message) =>
    .fetch ⟨.auth, storeId, message, some (.remote f)⟩
  | .cache (.other label message) =>
    .fetch ⟨.network, storeId, a.unavailable (.other label message), some (.remote f)⟩
  | f => .remote f

/-- Asks for the value of a key. -/
def get (w : World) (a : CacheAddress) (storeId : String) :
    Journaled (Except Fault (Option (List UInt8))) := do
  Journaled.ask (.keyAsked storeId)
  match w.cached storeId with
  | .error f => pure (.error (a.fault storeId f))
  | .ok value => pure (.ok value)

/-- Opens a client, asks for the key and closes the client whatever was answered. -/
def fetch (w : World) (a : CacheAddress) (storeId : String) :
    Journaled (Except Fault Snapshot) := do
  Journaled.ask (.cacheOpened a.host a.port)
  match ← (a.get w storeId).lastly (Journaled.ask .cacheClosed) with
  | .error f => pure (.error f)
  | .ok none => pure (.error (.fetch ⟨.notFound, storeId, "key not set", none⟩))
  | .ok (some bytes) => do
    Journaled.say (.cacheRead a.host a.port storeId bytes.length)
    pure (Snapshot.ofPayload w.room storeId (.bytes bytes))

end CacheAddress

end LiveConfig
