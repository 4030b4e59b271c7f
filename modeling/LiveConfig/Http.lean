import LiveConfig.Layer
set_option autoImplicit false

/-!
The HTTP service: a root page and a health report, both behind the layer. The report shows which
namespaces there are and whether they hold a snapshot, never what is in it.
-/
namespace LiveConfig.Http

structure Response where
  status : Nat
  body : Json
  deriving Repr

structure App where
  layer : Layer
  container : Container

def fields (l : List (String × Json)) : Json := .obj (l.map fun e => (Text.codePoints e.1, e.2))

def optionalInt : Option Int → Json
  | some z => .int z
  | none => .null

def rootPage : Json :=
  fields [("service", .text "celerity-config"), ("version", .text "0.1.0"), ("docs", .text "/docs")]

def namespaceReport (name : String) (n : Namespace) : Json :=
  fields
    [("name", .text name), ("store_id", .text n.storeId), ("backend", .text n.backend.kindName),
     ("refresh_interval_ms", optionalInt n.interval), ("loaded", .bool n.cached.isSome),
     ("refresh_in_flight", .bool n.isRefreshing)]

def serviceReport (s : Service) : List Json :=
  s.names.entries.filterMap fun e => (s.get? e.2).map (namespaceReport e.1)

def health (w : Wired) : Json :=
  fields
    [("status", .text "ok"), ("initialized", .bool true),
     ("platform", .text w.settings.platform.token),
     ("namespaces", .arr (serviceReport w.loop.service))]

def problem (status : Nat) (detail : String) : Response :=
  ⟨status, fields [("detail", .text detail)]⟩

namespace App

def fresh : App := ⟨.fresh, .empty⟩

/-- What is given to pages as the service: whatever the container holds under its token. -/
def service (a : App) : Except Fault Item :=
  if a.container.has Layer.serviceToken then a.container.resolve Layer.serviceToken
  else .error .notReady

/-- The health report on what is given as the service. What is none has no names to report. -/
def report (a : App) (item : Item) : Except Fault Response :=
  match a.layer.service? item with
  | some w => .ok ⟨200, health w⟩
  | none => .error (.remote (.foreign
    ⟨.attribute, s!"'{item.kindName}' object has no attribute 'namespace_names'"⟩))

/-- The own pages of the service. A page may fail with a fault instead of an answer. -/
def route (a : App) (method path : String) : Except Fault Response :=
  if path = "/" then
    .ok (if method = "GET" then ⟨200, rootPage⟩ else problem 405 "Method Not Allowed")
  else if path = "/v1/config/health" then
    if method = "GET" then
      match a.service with
      | .ok item => a.report item
      | .error f => .ok (problem 503 f.text)
    else .ok (problem 405 "Method Not Allowed")
  else .ok (problem 404 "Not Found")

/-- Every request passes the layer, also one without a page. -/
def request (a : App) (s : Surroundings) (w : World) (clock : Float) (method path : String) :
    Journaled (App × Except Fault Response) := do
  let handled ← a.layer.handle s w clock a.container (.ok ())
  let a : App := ⟨handled.layer, handled.container⟩
  pure (a, handled.outcome.bind fun _ => a.route method path)

def startUp : Journaled Unit := Journaled.say .serverStarting

/-- The end of the service closes what the container holds. -/
def shutDown (a : App) : Journaled (App × List String × Except Fault Unit) := do
  Journaled.say .serverStopping
  let (container, marks, outcome) ← a.container.closeAll
  pure (⟨a.layer, container⟩, marks, outcome)

end App

end LiveConfig.Http
