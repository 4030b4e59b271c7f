import LiveConfig.Backend.Selection
import LiveConfig.Service
set_option autoImplicit false

/-!
The settings of a deployment, read from its environment: which stores there are, of what kind,
and how long a snapshot lives. A service is built from them.
-/
namespace LiveConfig

inductive DeployTarget where
  | functions
  | runtime
  deriving DecidableEq, Repr

def DeployTarget.token : DeployTarget → String
  | .functions => "functions"
  | .runtime => "runtime"

/-- A store and the namespace that shows it. -/
structure Binding where
  name : String
  storeId : String
  kind : Option String
  deriving DecidableEq, Repr

structure Settings where
  platform : Platform
  storeId : String
  storeKind : Option String
  target : DeployTarget
  extensionCache : Bool
  interval : Option Int
  bindings : List Binding
  deriving DecidableEq, Repr

namespace Settings

def storeIdVariable : String := "CELERITY_CONFIG_STORE_ID"
def storeKindVariable : String := "CELERITY_CONFIG_STORE_KIND"
def intervalVariable : String := "CELERITY_CONFIG_REFRESH_INTERVAL_MS"
def runtimeVariable : String := "CELERITY_RUNTIME"
def bindingStart : String := "CELERITY_CONFIG_"
def storeIdEnd : String := "_STORE_ID"
def storeKindEnd : String := "_STORE_KIND"

def defaultInterval : Int := 30000
def defaultName : String := "default"

/-- An interval as text: what is not positive means never, what is no integer the default. -/
def readInterval (raw : String) : Journaled (Option Int) :=
  match Text.readTrimmedInteger raw with
  | some ms => pure (if ms ≤ 0 then none else some ms)
  | none => do
    Journaled.say (.invalidInterval raw)
    pure (some defaultInterval)

/-- Whether the extension keeps secrets for functions, so that refreshing them gains nothing. -/
def servedByExtension (platform : Platform) (target : DeployTarget) (extensionCache : Bool)
    (kind : Option String) : Bool :=
  platform = .aws && target = .functions && extensionCache &&
    StoreKind.normalize (kind.getD "") ≠ StoreKind.parameters.token

/-- The binding that a variable declares: its own name is between the fixed parts, and its value
the store. -/
def binding? (env : Environment) (entry : String × String) : Option Binding := do
  let rest ← Text.dropStart? bindingStart entry.1
  let own ← Text.dropEnd? storeIdEnd rest
  if entry.2 = "" ∨ own = "" ∨ own = "STORE" then none
  else some ⟨Text.lower own, entry.2, env.get? (bindingStart ++ own ++ storeKindEnd)⟩

/-- A single store that is set wins; else every variable that declares one, by name. -/
def discover (env : Environment) (storeId : String) (kind : Option String) : List Binding :=
  if storeId ≠ "" then [⟨defaultName, storeId, kind⟩]
  else (env.entries.filterMap (binding? env)).mergeSort fun a b => decide (a.name ≤ b.name)

def ofEnvironment (env : Environment) : Journaled Settings := do
  let platform := Scope.platform ⟨defaultOuter, env⟩
  let storeId := (env.get? storeIdVariable).getD ""
  let kind := env.get? storeKindVariable
  let target := if (env.filled? runtimeVariable).isSome then DeployTarget.runtime else .functions
  let extensionCache := (env.filled? Extension.portVariable).isSome
  let interval ←
    match env.get? intervalVariable with
    | some raw => readInterval raw
    | none =>
      pure (if servedByExtension platform target extensionCache kind then none
        else some defaultInterval)
  pure ⟨platform, storeId, kind, target, extensionCache, interval, discover env storeId kind⟩

end Settings

namespace Service

/-- Registers one namespace for each binding, up to the first whose name is taken. -/
def addBindings (s : Surroundings) (platform : Platform) (interval : Option Int) :
    Service → List Binding → Journaled (Except Fault Service)
  | service, [] => pure (.ok service)
  | service, b :: rest => do
    let backend ← Backend.select s platform b.kind
    match ← service.register b.name (.fresh backend b.storeId interval (some b.name)) with
    | .error f => pure (.error f)
    | .ok service => addBindings s platform interval service rest

def build (s : Surroundings) (settings : Settings) : Journaled (Except Fault Service) :=
  addBindings s settings.platform settings.interval .empty settings.bindings

end Service

end LiveConfig
