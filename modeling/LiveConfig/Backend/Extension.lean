import LiveConfig.Environment
import LiveConfig.Journal
import LiveConfig.World
set_option autoImplicit false

/-!
The secrets cache that runs beside a function and is asked over HTTP. It answers like the
secret store, with a JSON body.
-/
namespace LiveConfig

structure Extension where
  port : String
  sessionToken : String
  deriving DecidableEq, Repr

namespace Extension

def portVariable : String := "PARAMETERS_SECRETS_EXTENSION_HTTP_PORT"
def tokenVariable : String := "AWS_SESSION_TOKEN"
def defaultPort : String := "2773"

def host : String := "localhost"

/-- The address that requests go to, with the port as it was given. -/
def baseUrl (x : Extension) : String := s!"http://{host}:{x.port}"

/-- What is not given comes from the process environment. An empty port is not given, an empty
token is. -/
def complete (process : Environment) (port token : Option String) : Extension where
  port := (port.filter (· ≠ "")).getD ((process.get? portVariable).getD defaultPort)
  sessionToken := token.getD ((process.get? tokenVariable).getD "")

/-- Reads the body of a reply. Any status between 200 and 299 is a success. -/
def readReply (room : Json.Room) (r : HttpReply) (storeId : String) : Except Fault Snapshot :=
  if r.status < 200 ∨ 299 < r.status then .error (.remote (.transport (.badStatus r.complaint)))
  else
    match Payload.json room.reading (.bytes r.body) with
    | .error (.json f) => .error (.json f)
    | .error (.encoding f) => .error (.encoding f)
    | .error (.remote f) => .error (.remote f)
    | .ok (.obj members) => (Secret.ofMembers members).snapshot room storeId
    | .ok v => .error (.unexpectedReply v.kindName)

/-- The client of HTTP makes the address first, then takes the token for a header, and only then
sends the request. -/
def attempt (w : World) (x : Extension) (storeId : String) : Journaled (Except Fault Snapshot) :=
  match w.address x.baseUrl, w.tokenFault x.sessionToken with
  | .error f, _ => pure (.error (.remote f))
  | .ok _, some f => pure (.error (.remote f))
  | .ok address, none => do
    Journaled.ask (.extensionAsked address storeId x.sessionToken)
    match w.extension storeId with
    | .error f => pure (.error (.remote f))
    | .ok reply => pure (readReply w.room reply storeId)

/-- Whether another way is tried after a fault: so it is for faults of transport, of a store and of
values, but neither for an address that is invalid nor for values that are nested too deeply. -/
def fallsBack : Fault → Bool
  | .fetch _ => true
  | .remote (.transport (.invalidAddress _)) => false
  | .remote (.transport _) => true
  | f => f.isValueFault

end Extension

end LiveConfig
