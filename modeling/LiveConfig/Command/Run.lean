import LiveConfig.Command.Console
import LiveConfig.Command.Invocation
import LiveConfig.Json.Printer
import LiveConfig.Layer
import LiveConfig.Resource
set_option autoImplicit false

/-! What the commands print and how they end. -/
namespace LiveConfig.Command
open Text (Points)

structure Served where
  title : String
  host : String
  port : Int
  logLevel : String
  deriving DecidableEq, Repr

/-- What a run leaves behind. Help and usage are not part of the texts; a server that ran has no
exit code of its own, and neither has a run that fails over what it prints. -/
structure Result where
  exit : Option Nat
  out : Option Points
  err : Option String
  served : List Served
  failure : Option ForeignFault
  deriving DecidableEq, Repr

/-- The end of a run that has nothing to do but to print lines. -/
def printed (console : Console) (lines : List Points) : Result :=
  let (out, failure) := console.print lines
  ⟨if failure.isSome then none else some 0, some out, some "", [], failure⟩

def complained (message : String) : Result := ⟨some 1, some [], some (message ++ "\n"), [], none⟩

def unprinted (code : Nat) : Result := ⟨some code, none, none, [], none⟩

def processScope (env : Environment) : Scope := ⟨defaultOuter, env⟩

def resolutionJson (r : Resolution) : Json :=
  .obj
    [(Text.codePoints "provider", .text r.provider),
     (Text.codePoints "properties",
      .obj (r.properties.entries.map fun e => (Text.codePoints e.1, .text e.2)))]

def mask : String := "********"

/-- The lines of one namespace: its name, then its keys in ascending order. -/
def namespaceLines (reveal : Bool) (name : String) (s : Snapshot) : List Points :=
  Text.codePoints s!"[{name}]" ::
    (s.entries.mergeSort fun a b => Json.pointsBefore a.1 b.1).map fun e =>
      e.1 ++ Text.codePoints "=" ++ (if reveal then e.2 else Text.codePoints mask)

def firstAnswer (l : Loop) (task : Nat) : Except Fault Snapshot :=
  match (l.tasks.get? task).bind fun t => t.answers.head? with
  | some (.ok (.snapshot s)) => .ok s
  | some (.error f) => .error f
  | _ => .ok .empty

def fetchOne (l : Loop) (name : String) : Loop × Except Fault Snapshot :=
  match l.service.find name with
  | .error f => (l, .error f)
  | .ok id =>
    let task := l.freshTask
    let l := (l.apply (.begin task (.space id) [.all])).settle
    (l, firstAnswer l task)

/-- Fetches namespaces one after the other, up to the first that fails. -/
def fetchAll : Loop → List String → Loop × Except Fault (List (String × Snapshot))
  | l, [] => (l, .ok [])
  | l, name :: rest =>
    match fetchOne l name with
    | (l, .error f) => (l, .error f)
    | (l, .ok s) =>
      match fetchAll l rest with
      | (l, .error f) => (l, .error f)
      | (l, .ok more) => (l, .ok ((name, s) :: more))

/-- Reads the settings, builds the service and fetches what is asked for. An empty name asks for
everything. -/
def snapshots (env : Environment) (w : World) (name : Option String) :
    Journaled (Except Fault (List (String × Snapshot))) := do
  let settings ← Settings.ofEnvironment env
  match ← Service.build ⟨env, none⟩ settings with
  | .error f => pure (.error f)
  | .ok service =>
    let names :=
      match name.filter (· ≠ "") with
      | some name => [name]
      | none => service.nameList
    let (l, fetched) := fetchAll (.start service w 0) names
    ⟨fetched, l.entries⟩

/-- Faults of configuration and of values are reported, all others are passed on. -/
def reportable (f : Fault) : Bool := f.isConfigFault || f.isValueFault

def runShow (console : Console) (env : Environment) (w : World) (name : Option String)
    (reveal : Bool) : Journaled (Except Fault Result) := do
  match ← snapshots env w name with
  | .error f =>
    if reportable f then pure (.ok (complained ("❌ " ++ f.text))) else pure (.error f)
  | .ok [] =>
    pure (.ok (complained "⚠️  No config namespaces found (set CELERITY_CONFIG_STORE_ID)"))
  | .ok shown =>
    pure (.ok (printed console (shown.flatMap fun e => namespaceLines reveal e.1 e.2)))

def Invocation.run (console : Console) (env : Environment) (w : World) (i : Invocation) :
    Journaled (Except Fault Result) :=
  match i.action with
  | .platform =>
    pure (.ok (printed console [Text.codePoints (processScope env).platform.token]))
  | .resolve type name =>
    let r := Resource.resolve ⟨type, name⟩ (processScope env)
    pure (.ok (printed console [Text.codePoints (Json.indented (resolutionJson r))]))
  | .showAll name reveal => runShow console env w name reveal
  | .serve host port =>
    pure (.ok ⟨none, some [], some "",
      [⟨"Celerity Config", host, port, (i.logLevel).getD "info"⟩], none⟩)

def run (console : Console) (env : Environment) (w : World) (line : List String) :
    Journaled (Except Fault Result) :=
  match Request.ofLine line with
  | .run i => i.run console env w
  | .help => pure (.ok (unprinted 0))
  | .mistaken => pure (.ok (unprinted 2))
  | .nothing => pure (.ok (unprinted 1))

end LiveConfig.Command
