import LiveConfig.Journal
import LiveConfig.Text.Affix
import LiveConfig.World
set_option autoImplicit false

/-!
The two stores of the cloud provider: secrets, and parameters under a path. Both share a client
that is made on first use, and the classification of faults.
-/
namespace LiveConfig

namespace FetchFault

def authCodes : List String :=
  ["AccessDenied", "AccessDeniedException", "UnrecognizedClientException",
   "ExpiredTokenException", "InvalidClientTokenId", "InvalidSignatureException",
   "IncompleteSignature", "DecryptionFailure"]

def notFoundCodes : List String := ["ResourceNotFoundException", "ParameterNotFound"]

def problemOfCode (code : String) : FetchProblem :=
  if code ∈ authCodes then .auth else if code ∈ notFoundCodes then .notFound else .network

def cloudProblem : RemoteFault → FetchProblem
  | .service f => problemOfCode (f.code.getD "")
  | .client (.noCredentials _) | .client (.partialCredentials _) => .auth
  | _ => .network

/-- A refusal is described by its code and message, any other fault by its text. -/
def cloudDetail : RemoteFault → String
  | .service f => f.code.getD "" ++ ": " ++ f.message.getD f.text
  | f => f.text

def ofCloud (storeId : String) (f : RemoteFault) : FetchFault :=
  ⟨cloudProblem f, storeId, cloudDetail f, none⟩

end FetchFault

def RemoteFault.isCloud : RemoteFault → Bool
  | .service _ | .client _ => true
  | _ => false

/-- Faults of the cloud become fetch faults, others stay what they are. -/
def RemoteFault.asCloudFault (storeId : String) (f : RemoteFault) : Fault :=
  if f.isCloud then
    .fetch { FetchFault.ofCloud storeId f with cause := some (.remote f) }
  else .remote f

inductive CloudService where
  | secrets
  | parameters
  deriving DecidableEq, Repr

def CloudService.token : CloudService → String
  | .secrets => "secretsmanager"
  | .parameters => "ssm"

/-- A client that is made when it is first needed, and again until that succeeds. -/
structure CloudClient where
  region : Option String
  made : Bool
  deriving DecidableEq, Repr

namespace CloudClient

def fresh (region : Option String) : CloudClient := ⟨region, false⟩

def acquire (w : World) (service : CloudService) (c : CloudClient) :
    Journaled (CloudClient × Except RemoteFault Unit) :=
  if c.made then pure (c, .ok ())
  else do
    Journaled.ask (.clientMade service.token c.region)
    match w.clientFault with
    | some f => pure (c, .error f)
    | none => pure ({ c with made := true }, .ok ())

def fetchSecret (w : World) (c : CloudClient) (storeId : String) :
    Journaled (CloudClient × Except Fault Snapshot) := do
  let (c, made) ← c.acquire w .secrets
  match made with
  | .error f => pure (c, .error (f.asCloudFault storeId))
  | .ok () => do
    Journaled.ask (.secretAsked storeId)
    match w.secret storeId with
    | .error f => pure (c, .error (f.asCloudFault storeId))
    | .ok secret => pure (c, secret.snapshot w.room storeId)

end CloudClient

namespace Parameter

/-- A store of parameters is asked for by a path that ends in a slash. -/
def pathOf (storeId : String) : String :=
  if (Text.dropEnd? "/" storeId).isSome then storeId else storeId ++ "/"

/-- The entry of a parameter, its name shortened by the path; none unless name and value are
there. -/
def pair? (path : String) (p : Parameter) : Option (Text.Points × Text.Points) :=
  match p.name, p.value with
  | some name, some value =>
    some ((Text.afterStart? (Text.codePoints path) name).getD name, value)
  | _, _ => none

/-- The parameters of all pages, or the fault of the first page that has one. -/
def gather : List Page → Except RemoteFault (List Parameter)
  | [] => .ok []
  | .error f :: _ => .error f
  | .ok ps :: rest => (gather rest).map (ps ++ ·)

def snapshot (path : String) (ps : List Parameter) : Snapshot := .ofList (ps.filterMap (pair? path))

end Parameter

def CloudClient.fetchParameters (w : World) (c : CloudClient) (storeId : String) :
    Journaled (CloudClient × Except Fault Snapshot) := do
  let path := Parameter.pathOf storeId
  let (c, made) ← c.acquire w .parameters
  match made with
  | .error f => pure (c, .error (f.asCloudFault storeId))
  | .ok () => do
    Journaled.ask (.paginatorMade "get_parameters_by_path")
    Journaled.ask (.pagesAsked path)
    match Parameter.gather (w.pages path) with
    | .error f => pure (c, .error (f.asCloudFault storeId))
    | .ok ps => do
      let snapshot := Parameter.snapshot path ps
      Journaled.say (.parametersRead path snapshot.size)
      pure (c, .ok snapshot)

end LiveConfig
