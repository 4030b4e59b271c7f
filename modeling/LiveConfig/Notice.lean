import LiveConfig.Decimal.Shortest
import LiveConfig.Text.Integer
import LiveConfig.Text.Quoted
set_option autoImplicit false

/-! What is reported in the log, as events with a level and a text. -/
namespace LiveConfig

inductive Level where
  | debug
  | info
  | warning
  | error
  deriving DecidableEq, Repr

def Level.token : Level → String
  | .debug => "DEBUG"
  | .info => "INFO"
  | .warning => "WARNING"
  | .error => "ERROR"

/-- A number of milliseconds, or none for never. -/
def intervalText : Option Int → String
  | some ms => Text.showInteger ms
  | none => "None"

inductive Notice where
  | unknownStoreKind (raw : String)
  | invalidPort (raw : String)
  | invalidInterval (raw : String)
  | parametersRead (path : String) (count : Nat)
  | cacheRead (host : String) (port : Int) (key : String) (size : Nat)
  | extensionFailed (storeId reason : String)
  | namespaceRegistered (name label : String)
  | firstFetch (space storeId : String)
  | stale (space : String) (age : Float)
  | loaded (space : String) (count : Nat)
  | refreshFailed (space reason : String)
  | refreshBroke (space : String)
  | handlerFailed (space : String)
  | registered (token : String)
  | closing (token : String)
  | layerReady (platform : String) (names : List String) (interval : Option Int)
  | serverStarting
  | serverStopping
  deriving DecidableEq, Repr

namespace Notice

def level : Notice → Level
  | .unknownStoreKind _ | .invalidPort _ | .invalidInterval _ | .extensionFailed _ _ => .warning
  | .refreshBroke _ | .handlerFailed _ => .error
  | .layerReady _ _ _ | .serverStarting | .serverStopping => .info
  | _ => .debug

def extensionFailure : String := "Lambda extension fetch failed"

def text : Notice → String
  | .unknownStoreKind raw => s!"Unknown config store kind {Text.quoted raw}, using secrets-manager"
  | .invalidPort raw =>
    s!"Ignoring invalid CELERITY_CONFIG_VALKEY_PORT={Text.quoted raw}, using 6379"
  | .invalidInterval raw =>
    s!"Ignoring invalid CELERITY_CONFIG_REFRESH_INTERVAL_MS={Text.quoted raw}, using 30000ms"
  | .parametersRead path count => s!"Parameter store {path}: {count} parameters"
  | .cacheRead host port key size =>
    s!"Valkey {host}:{port} key {Text.quoted key}: {size} bytes"
  | .extensionFailed storeId reason =>
    s!"{extensionFailure} for {Text.quoted storeId} ({reason}), using Secrets Manager directly"
  | .namespaceRegistered name label => s!"Registering config namespace {Text.quoted name}: {label}"
  | .firstFetch space storeId => s!"Namespace {space}: first fetch of {Text.quoted storeId}"
  | .stale space age =>
    let shown := String.ofList (Decimal.wholeText age)
    s!"Namespace {space}: stale (age={shown}ms), triggering background refresh"
  | .loaded space count => s!"Namespace {space}: {count} keys loaded"
  | .refreshFailed space reason =>
    s!"Namespace {space}: refresh failed ({reason}), serving stale values"
  | .refreshBroke space => s!"Namespace {space}: unexpected refresh failure, serving stale values"
  | .handlerFailed space => s!"Namespace {space}: on_refresh_error handler failed"
  | .registered token => "Registering " ++ Text.quoted token
  | .closing token => "Closing " ++ Text.quoted token
  | .layerReady platform names interval =>
    let shown := if names.isEmpty then "none" else Text.quotedList names
    s!"Config layer initialized (platform: {platform}, namespaces: {shown}, " ++
      s!"refresh: {intervalText interval}ms)"
  | .serverStarting => "Starting celerity-config service"
  | .serverStopping => "Shutting down celerity-config service"

end Notice

end LiveConfig
