set_option autoImplicit false

/-! Deployment platforms and their tokens. -/
namespace LiveConfig

inductive Platform where
  | aws
  | gcp
  | azure
  | workstation
  | other
  deriving DecidableEq, Repr

namespace Platform

def all : List Platform := [.aws, .gcp, .azure, .workstation, .other]

def token : Platform → String
  | .aws => "aws"
  | .gcp => "gcp"
  | .azure => "azure"
  | .workstation => "local"
  | .other => "other"

def ofToken? (token : String) : Option Platform := all.find? fun p => p.token = token

theorem ofToken?_token (p : Platform) : ofToken? p.token = some p := by cases p <;> rfl

end Platform

end LiveConfig
