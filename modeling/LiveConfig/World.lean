import LiveConfig.Journal
import LiveConfig.Secret
set_option autoImplicit false

/-!
The outside world as far as stores are read from it: what each remote service answers, what the
clients on the way make of an address and a token, and how deep values may be nested. As long as a
world does not change, asking it twice gives the same answer.
-/
namespace LiveConfig

/-- Names and values may hold whatever a text can. -/
structure Parameter where
  name : Option Text.Points
  value : Option Text.Points
  deriving DecidableEq, Repr

/-- A page of parameters, or the fault that is met on reaching it. -/
abbrev Page := Except RemoteFault (List Parameter)

/-- A reply over HTTP, with what its client says of the status if that is no success. -/
structure HttpReply where
  status : Nat
  complaint : String
  body : List UInt8
  deriving DecidableEq, Repr

structure World where
  secret : String → Except RemoteFault Secret
  /-- The pages of parameters under a path. -/
  pages : String → List Page
  /-- The fault of making a cloud client, if none can be made. -/
  clientFault : Option RemoteFault
  /-- The value of a key of the cache, if it is set. -/
  cached : String → Except RemoteFault (Option (List UInt8))
  /-- Where the client of HTTP sends a request for a secret, given the address of the extension. -/
  address : String → Except RemoteFault HttpAddress
  /-- The fault of sending a session token, if it cannot be sent. -/
  tokenFault : String → Option RemoteFault
  /-- The answer of the extension to a request for a secret. -/
  extension : String → Except RemoteFault HttpReply
  room : Json.Room

/-- What the stores of a world hold under each name, or the fault that a name is met with. -/
structure Contents where
  secrets : Table String (Except RemoteFault Secret)
  parameters : Table String (List Page)
  clientFault : Option RemoteFault
  cache : Table String (Except RemoteFault (List UInt8))
  extension : Except RemoteFault HttpReply

namespace Contents

def noConnection : RemoteFault := .transport (.other "ConnectError" "refused")

/-- No store holds anything and no extension listens. -/
def empty : Contents where
  secrets := .empty
  parameters := .empty
  clientFault := none
  cache := .empty
  extension := .error noConnection

def missingSecret : ServiceFault :=
  ⟨some "ResourceNotFoundException", some "Secrets Manager can't find the specified secret.",
    "An error occurred (ResourceNotFoundException) when calling the GetSecretValue operation: " ++
      "Secrets Manager can't find the specified secret."⟩

/-- The world of these stores. Any address is the usual one, and any token is sent. -/
def world (c : Contents) : World where
  secret id := (c.secrets.get? id).getD (.error (.service missingSecret))
  pages path := (c.parameters.get? path).getD []
  clientFault := c.clientFault
  cached key :=
    match c.cache.get? key with
    | some value => value.map some
    | none => .ok none
  address _ := .ok ⟨"localhost", none, "/secretsmanager/get"⟩
  tokenFault _ := none
  extension _ := c.extension
  room := .usual

end Contents

def World.noCredentials : RemoteFault := .client (.noCredentials "Unable to locate credentials")

def World.offline : World where
  secret _ := .error World.noCredentials
  pages _ := []
  clientFault := some World.noCredentials
  cached _ := .error (.cache (.other "ConnectionError" "no connection"))
  address _ := .error Contents.noConnection
  tokenFault _ := none
  extension _ := .error Contents.noConnection
  room := .usual

end LiveConfig
