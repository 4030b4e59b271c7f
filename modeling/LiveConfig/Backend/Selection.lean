import LiveConfig.Backend.Basic
set_option autoImplicit false

/-! Which backend serves a platform and a kind of store. -/
namespace LiveConfig

inductive StoreKind where
  | secrets
  | parameters
  deriving DecidableEq, Repr

namespace StoreKind

def token : StoreKind → String
  | .secrets => "secrets-manager"
  | .parameters => "parameter-store"

/-- The form in which kinds are compared. -/
def normalize (raw : String) : String :=
  String.ofList (Text.lowerChars (Text.trim raw.toList))

def ofToken? (token : String) : Option StoreKind :=
  [secrets, parameters].find? fun k => k.token = token

/-- A missing kind means secrets; so does an unknown one, with a warning. -/
def read (raw : Option String) : Journaled StoreKind :=
  match raw.filter (· ≠ "") with
  | none => pure .secrets
  | some raw =>
    match ofToken? (normalize raw) with
    | some kind => pure kind
    | none => do
      Journaled.say (.unknownStoreKind raw)
      pure .secrets

end StoreKind

/-- The environments that are read: the one of the process, and one given in its place. -/
structure Surroundings where
  process : Environment
  given : Option Environment

def Surroundings.environment (s : Surroundings) : Environment := s.given.getD s.process

def Surroundings.change (s : Surroundings) (f : Environment → Environment) : Surroundings :=
  match s.given with
  | some env => { s with given := some (f env) }
  | none => { s with process := f s.process }

def functionVariable : String := "AWS_LAMBDA_FUNCTION_NAME"

namespace Backend

/-- On the cloud provider parameters are always read directly, and secrets through the extension
where a function has one attached. -/
def forCloud (s : Surroundings) (kind : StoreKind) : Backend :=
  match kind with
  | .parameters => .parameters (.fresh none)
  | .secrets =>
    match s.environment.filled? functionVariable, s.environment.filled? Extension.portVariable with
    | some _, some port =>
      let token := (s.environment.get? Extension.tokenVariable).getD ""
      .extension (.complete s.process port token) freshSecrets
    | _, _ => freshSecrets

/-- The kind of store matters on the cloud provider only. -/
def select (s : Surroundings) (platform : Platform) (kind : Option String) : Journaled Backend :=
  match platform with
  | .aws => do
    let kind ← StoreKind.read kind
    pure (forCloud s kind)
  | .workstation => do
    let host := s.environment.get? CacheAddress.hostVariable
    let port ← CacheAddress.readPort (s.environment.get? CacheAddress.portVariable)
    let address ← CacheAddress.complete s.process host (some port)
    pure (.cache address)
  | _ => pure .empty

end Backend

def Platform.ofToken (token : String) : Except Fault Platform :=
  match ofToken? token with
  | some p => .ok p
  | none => .error (.unknownPlatform token)

end LiveConfig
