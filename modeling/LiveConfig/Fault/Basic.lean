import LiveConfig.Bytes.Encoding
import LiveConfig.Fault.Remote
import LiveConfig.Json.Fault
set_option autoImplicit false

/-! Everything that can go wrong, as causes, with one text for each. -/
namespace LiveConfig

inductive FetchProblem where
  | network
  | auth
  | notFound
  | decode
  deriving DecidableEq, Repr

namespace FetchProblem

def all : List FetchProblem := [.network, .auth, .notFound, .decode]

def token : FetchProblem → String
  | .network => "network"
  | .auth => "auth"
  | .notFound => "not_found"
  | .decode => "decode"

end FetchProblem

/-- What a failed fetch is blamed on. -/
inductive Cause where
  | json (fault : Json.Fault)
  | encoding (flaw : Bytes.Flaw)
  | remote (fault : RemoteFault)
  deriving DecidableEq, Repr

structure FetchFault where
  problem : FetchProblem
  storeId : String
  detail : String
  cause : Option Cause
  deriving DecidableEq, Repr

def FetchFault.text (f : FetchFault) : String :=
  s!"{f.problem.token} error fetching {Text.quoted f.storeId}: {f.detail}"

/-- A field of a model that is missing or does not read as an integer. -/
inductive FieldProblem where
  | missing
  | notInteger
  | tooLong
  deriving DecidableEq, Repr

inductive Fault where
  | fetch (fault : FetchFault)
  | keyNotFound (key namespaceName : String)
  | unknownNamespace (name : String)
  | noNamespaces
  | ambiguousNamespace (names : List String)
  | namespaceTaken (name : String)
  | unknownPlatform (token : String)
  | unknownProblem (token : String)
  | nothingRegistered (token : String)
  | notReady
  | json (fault : Json.Fault)
  | encoding (flaw : Bytes.Flaw)
  | remote (fault : RemoteFault)
  | payloadNotText (kind : String)
  | payloadNotBytes (kind : String)
  | unexpectedReply (kind : String)
  | rejected
  | invalidModel (text : String) (fields : List (String × FieldProblem))
  deriving DecidableEq, Repr

namespace Fault

def text : Fault → String
  | .fetch f => f.text
  | .keyNotFound key namespaceName =>
    s!"Config key \"{key}\" not found in namespace \"{namespaceName}\""
  | .unknownNamespace name => s!"Config namespace \"{name}\" not registered"
  | .noNamespaces => "No config namespaces registered"
  | .ambiguousNamespace names =>
    "Multiple config namespaces registered (" ++ ", ".intercalate names ++
      "). Use config.namespace(name) to access a specific one."
  | .namespaceTaken name => s!"Config namespace \"{name}\" already registered"
  | .unknownPlatform token => Text.quoted token ++ " is not a valid Platform"
  | .unknownProblem token => Text.quoted token ++ " is not a valid BackendErrorKind"
  | .nothingRegistered token => "Nothing registered for " ++ Text.quoted token
  | .notReady => "Config service not initialized"
  | .json f => f.message
  | .encoding f => f.message
  | .remote f => f.text
  | .payloadNotText kind => "the JSON object must be str, bytes or bytearray, not " ++ kind
  | .payloadNotBytes kind => s!"a bytes-like object is required, not '{kind}'"
  | .unexpectedReply kind => "unexpected extension response: " ++ kind
  | .rejected => "Validation failed"
  | .invalidModel text _ => text

/-- Faults that belong to this library: of fetching and of finding namespaces and keys. -/
def isConfigFault : Fault → Bool
  | .fetch _ | .keyNotFound _ _ | .unknownNamespace _ | .noNamespaces
  | .ambiguousNamespace _ => true
  | _ => false

/-- Faults of a value that was given or received. One that is nested too deeply is none. -/
def isValueFault : Fault → Bool
  | .json (.tooDeep _) => false
  | .namespaceTaken _ | .unknownPlatform _ | .unknownProblem _ | .json _ | .encoding _
  | .unexpectedReply _ | .rejected | .invalidModel _ _ => true
  | .remote (.foreign f) => f.kind.isValue
  | _ => false

/-- The fault of a foreign state, as a test double or a closing value raises it. -/
def broken (message : String) : Fault := .remote (.foreign ⟨.state, message⟩)

end Fault

def FetchProblem.ofToken (token : String) : Except Fault FetchProblem :=
  match all.find? (fun p => p.token = token) with
  | some p => .ok p
  | none => .error (.unknownProblem token)

end LiveConfig
