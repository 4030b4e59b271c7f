import LiveConfig.Platform
import LiveConfig.Table
import LiveConfig.Text.Affix
import LiveConfig.Text.Case
set_option autoImplicit false

/-!
Environment variables and their naming scheme. Variables stand under a common outer name:

    OUTER_APP_KEY        application variables
    OUTER_SECRET_KEY     secrets injected at deployment
    OUTER_VARIABLE_KEY   variables of the platform
    OUTER_PLATFORM       the deployment platform
-/
namespace LiveConfig

abbrev Environment := Table String String

/-- The value of a variable that is set and not empty. -/
def Environment.filled? (env : Environment) (name : String) : Option String :=
  (env.get? name).filter (· ≠ "")

/-- An environment seen under an outer name. -/
structure Scope where
  outer : String
  environment : Environment
  deriving DecidableEq, Repr

/-- The outer name that the settings of this program use. -/
def defaultOuter : String := "CELERITY"

namespace Scope

def get? (s : Scope) (name : String) : Option String :=
  s.environment.get? (s.outer ++ "_" ++ name)

def appStart (s : Scope) : String := s.outer ++ "_APP_"

def appVariable? (s : Scope) (name : String) : Option String :=
  s.environment.get? (s.appStart ++ name)

/-- All application variables, without what stands before their own name. -/
def appVariables (s : Scope) : Table String String :=
  .ofList (s.environment.entries.filterMap fun e => (Text.dropStart? s.appStart e.1).map (·, e.2))

def secret? (s : Scope) (name : String) : Option String :=
  s.environment.get? (s.outer ++ "_SECRET_" ++ name)

def injected? (s : Scope) (name : String) : Option String :=
  s.environment.get? (s.outer ++ "_VARIABLE_" ++ name)

/-- The platform, in any case; what is not recognized is another one. -/
def platform (s : Scope) : Platform :=
  match s.environment.get? (s.outer ++ "_PLATFORM") with
  | some raw => (Platform.ofToken? (Text.lower raw)).getD .other
  | none => .other

end Scope

end LiveConfig
