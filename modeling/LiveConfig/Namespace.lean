import LiveConfig.Backend.Basic
import LiveConfig.Schema
set_option autoImplicit false

/-!
A config namespace: one store behind one backend, with the snapshot that was fetched last. It
remembers the number of the fetch that is in flight, if any.
-/
namespace LiveConfig

structure Cached where
  snapshot : Snapshot
  fetchedAt : Float
  deriving DecidableEq, Repr

def Cached.age (c : Cached) (clock : Float) : Float := (clock - c.fetchedAt) * 1000

/-- Who is told of failed refreshes: nobody, or someone who takes the news or fails over it. -/
inductive Handler where
  | absent
  | accepting
  | failing
  deriving DecidableEq, Repr

structure Namespace where
  name : String
  storeId : String
  /-- Milliseconds after which a snapshot is stale; without them it never is. -/
  interval : Option Int
  handler : Handler
  backend : Backend
  cached : Option Cached
  inFlight : Option Nat
  started : Nat
  /-- The faults that the handler was told of. -/
  reported : List Fault
  deriving Repr

namespace Namespace

/-- An empty name is replaced by the store's. -/
def fresh (backend : Backend) (storeId : String) (interval : Option Int) (name : Option String) :
    Namespace where
  name := (name.filter (· ≠ "")).getD storeId
  storeId := storeId
  interval := interval
  handler := .absent
  backend := backend
  cached := none
  inFlight := none
  started := 0
  reported := []

def label (n : Namespace) : String :=
  s!"ConfigNamespace(name={Text.quoted n.name}, store_id={Text.quoted n.storeId}, " ++
    s!"backend={n.backend.label}, refresh_interval_ms={intervalText n.interval})"

def isStale (n : Namespace) (clock : Float) : Bool :=
  match n.cached, n.interval with
  | some c, some ms => Decimal.atLeast (c.age clock) ms
  | _, _ => false

def isRefreshing (n : Namespace) : Bool := n.inFlight.isSome

def fetchedAt (n : Namespace) : Option Float := n.cached.map Cached.fetchedAt

def startFetch (n : Namespace) : Namespace :=
  { n with inFlight := some n.started, started := n.started + 1 }

def endFetch (n : Namespace) : Namespace := { n with inFlight := none }

def store (n : Namespace) (s : Snapshot) (clock : Float) : Namespace :=
  { n with cached := some ⟨s, clock⟩ }

def report (n : Namespace) (f : Fault) : Journaled Namespace := do
  match f with
  | .fetch fault => Journaled.say (.refreshFailed n.name fault.text)
  | _ => Journaled.say (.refreshBroke n.name)
  match n.handler with
  | .absent => pure n
  | .accepting => pure { n with reported := n.reported ++ [f] }
  | .failing => do
    Journaled.say (.handlerFailed n.name)
    pure { n with reported := n.reported ++ [f] }

end Namespace

/-- What is asked of a namespace. The first five read its snapshot. -/
inductive Call where
  | get (key : String)
  | require (key : String)
  | all
  | parse (schema : Schema)
  | edit (key value : String)
  | wait
  | isStale
  | isRefreshing
  | label
  | describe

inductive Answer where
  | value (v : Option Text.Points)
  | snapshot (s : Snapshot)
  | parsed (p : Parsed)
  | done
  | flag (b : Bool)
  | label (text : String)
  | description (name storeId : String) (interval : Option Int) (backend : Backend)
  deriving Repr

/-- What a call answers that reads the snapshot. -/
def Call.read (name : String) (s : Snapshot) : Call → Except Fault Answer
  | .get key => .ok (.value (s.get? (Text.codePoints key)))
  | .require key =>
    match s.get? (Text.codePoints key) with
    | some v => .ok (.value (some v))
    | none => .error (.keyNotFound key name)
  | .parse schema => (schema s).map .parsed
  | .edit key value => .ok (.snapshot (s.insert (Text.codePoints key) (Text.codePoints value)))
  | _ => .ok (.snapshot s)

/-- What a call answers that looks at the namespace and nothing else; none for one that reads the
snapshot or waits. -/
def Call.look? (n : Namespace) (clock : Float) : Call → Option Answer
  | .isStale => some (.flag (n.isStale clock))
  | .isRefreshing => some (.flag n.isRefreshing)
  | .label => some (.label n.label)
  | .describe => some (.description n.name n.storeId n.interval n.backend)
  | _ => none

end LiveConfig
