import LiveConfig.Environment
set_option autoImplicit false

/-!
A resource such as a database, perhaps a named one, is described by application variables that
begin with its type and name in capitals. One of them may name the provider.
-/
namespace LiveConfig

structure Resource where
  type : String
  name : Option String
  deriving DecidableEq, Repr

structure Resolution where
  provider : String
  properties : Table String String
  deriving DecidableEq, Repr

namespace Resource

def providerKey : String := "PROVIDER"

/-- What the variables of a resource begin with. An empty name is no name. -/
def start (r : Resource) : String :=
  match r.name.filter (· ≠ "") with
  | some name => Text.upper r.type ++ "_" ++ Text.upper name ++ "_"
  | none => Text.upper r.type ++ "_"

def description (r : Resource) (s : Scope) : Table String String :=
  .ofList (s.appVariables.entries.filterMap fun e => (Text.dropStart? r.start e.1).map (·, e.2))

def inferredProvider (s : Scope) : String :=
  match s.platform with
  | .other => "unknown"
  | p => p.token

/-- A provider variable wins even when it is empty; else the platform provides. -/
def resolve (r : Resource) (s : Scope) : Resolution where
  provider := ((r.description s).get? providerKey).getD (inferredProvider s)
  properties := (r.description s).erase providerKey

end Resource

end LiveConfig
