import LiveConfig.Service
set_option autoImplicit false

/-!
The event loop. Tasks ask namespaces one call after the other; fetches run beside them. Whatever
can go on stands in one queue and goes on in its order. An access to a namespace without snapshot
waits for the fetch in flight, which all such accesses share; an access to one with a snapshot is
answered at once and may start a refresh in the background.
-/
namespace LiveConfig

/-- A fetch that has not ended, with the tasks that wait for it. -/
structure Fetch where
  space : Nat
  number : Nat
  background : Bool
  stage : Stage
  waiters : List Nat
  deriving DecidableEq, Repr

/-- Whom a task asks: one namespace, or whichever is the only one. -/
inductive Target where
  | space (id : Nat)
  | only
  deriving DecidableEq, Repr

inductive TaskState where
  | ready
  | waiting
  | finished
  | cancelled
  deriving DecidableEq, Repr

/-- A task with the calls it has still to make. While it waits, the first of them is under way. -/
structure Task where
  target : Target
  calls : List Call
  answers : List (Except Fault Answer)
  state : TaskState

/-- What stands in the queue. The end of a fetch reaches a waiting task in two turns: first it is
notified, then it resumes. -/
inductive Job where
  | run (task : Nat)
  | fetch (space number : Nat)
  | notify (task space : Nat) (fault : Option Fault)
  | resume (task space : Nat) (fault : Option Fault)
  deriving DecidableEq, Repr

structure Loop where
  service : Service
  tasks : Table Nat Task
  fetches : List Fetch
  ready : List Job
  clock : Float
  world : World
  entries : List Entry

namespace Loop

def start (service : Service) (world : World) (clock : Float) : Loop where
  service := service
  tasks := .empty
  fetches := []
  ready := []
  clock := clock
  world := world
  entries := []

def write (l : Loop) (es : List Entry) : Loop := { l with entries := l.entries ++ es }

def say (l : Loop) (n : Notice) : Loop := l.write [.said n]

def push (l : Loop) (jobs : List Job) : Loop := { l with ready := l.ready ++ jobs }

def update (l : Loop) (id : Nat) (f : Namespace → Namespace) : Loop :=
  { l with service := l.service.update id f }

def setTask (l : Loop) (id : Nat) (t : Task) : Loop := { l with tasks := l.tasks.insert id t }

def findFetch? (l : Loop) (space number : Nat) : Option Fetch :=
  l.fetches.find? fun f => f.space = space ∧ f.number = number

def replaceFetch (l : Loop) (space number : Nat) (f : Fetch → Fetch) : Loop :=
  { l with fetches := l.fetches.map fun g =>
      if g.space = space ∧ g.number = number then f g else g }

def removeFetch (l : Loop) (space number : Nat) : Loop :=
  { l with fetches := l.fetches.filter fun g => ¬(g.space = space ∧ g.number = number) }

/-- Starts the next fetch of a namespace at the end of the queue. -/
def startFetch (l : Loop) (id : Nat) (n : Namespace) (background : Bool) : Loop :=
  let l := l.update id Namespace.startFetch
  { l with
    fetches := l.fetches ++ [⟨id, n.started, background, .arriving, []⟩]
    ready := l.ready ++ [.fetch id n.started] }

/-- A call is answered at once or waits for a fetch of a namespace. -/
inductive Reply where
  | now (outcome : Except Fault Answer)
  | later (space fetch : Nat)

def access (l : Loop) (id : Nat) (n : Namespace) (call : Call) : Loop × Reply :=
  match n.cached with
  | some c =>
    let reply := Reply.now (call.read n.name c.snapshot)
    if n.isStale l.clock ∧ n.inFlight = none then
      ((l.say (.stale n.name (c.age l.clock))).startFetch id n true, reply)
    else (l, reply)
  | none =>
    match n.inFlight with
    | some number => (l, .later id number)
    | none => ((l.say (.firstFetch n.name n.storeId)).startFetch id n false, .later id n.started)

def begin (l : Loop) (id : Nat) (n : Namespace) (call : Call) : Loop × Reply :=
  match call.look? n l.clock with
  | some answer => (l, .now (.ok answer))
  | none =>
    match call with
    | .wait =>
      match n.inFlight with
      | some number => (l, .later id number)
      | none => (l, .now (.ok .done))
    | call => l.access id n call

def locate (l : Loop) : Target → Except Fault Nat
  | .space id => .ok id
  | .only => l.service.only

def ask (l : Loop) (target : Target) (call : Call) : Loop × Reply :=
  match l.locate target with
  | .error f => (l, .now (.error f))
  | .ok id =>
    match l.service.get? id with
    | none => (l, .now (.error .noNamespaces))
    | some n => l.begin id n call

def join (l : Loop) (space number task : Nat) : Loop :=
  l.replaceFetch space number fun f => { f with waiters := f.waiters ++ [task] }

/-- Makes the calls of a task until one has to wait. -/
def proceed (l : Loop) (task : Nat) (target : Target) (answers : List (Except Fault Answer)) :
    List Call → Loop
  | [] => l.setTask task ⟨target, [], answers, .finished⟩
  | call :: rest =>
    match l.ask target call with
    | (l, .now outcome) => l.proceed task target (answers ++ [outcome]) rest
    | (l, .later space number) =>
      (l.join space number task).setTask task ⟨target, call :: rest, answers, .waiting⟩

def runTask (l : Loop) (task : Nat) : Loop :=
  match l.tasks.get? task with
  | some t => if t.state = .ready then l.proceed task t.target t.answers t.calls else l
  | none => l

/-- What a call answers whose fetch has ended. Waiting itself never fails; an access fails with
the fetch, and otherwise reads the snapshot that is there now. -/
def conclude (n : Namespace) (call : Call) (fault : Option Fault) : Except Fault Answer :=
  match call with
  | .wait => .ok .done
  | call =>
    match fault with
    | some f => .error f
    | none => call.read n.name ((n.cached.map Cached.snapshot).getD .empty)

def resumeTask (l : Loop) (task space : Nat) (fault : Option Fault) : Loop :=
  match l.tasks.get? task, l.service.get? space with
  | some t, some n =>
    match t.state, t.calls with
    | .waiting, call :: rest =>
      l.proceed task t.target (t.answers ++ [conclude n call fault]) rest
    | _, _ => l
  | _, _ => l

/-- The end of a fetch empties the slot of its namespace and notifies all who wait for it. A
snapshot is kept with the time; the fault of a refresh goes to the handler and to nobody else. -/
def finish (l : Loop) (f : Fetch) (outcome : Except Fault Snapshot) : Loop :=
  let l := (l.removeFetch f.space f.number).update f.space Namespace.endFetch
  match outcome with
  | .ok s =>
    let l := l.update f.space fun n => n.store s l.clock
    let l := match l.service.get? f.space with
      | some n => l.say (.loaded n.name s.size)
      | none => l
    l.push (f.waiters.map (.notify · f.space none))
  | .error fault =>
    if f.background then
      match l.service.get? f.space with
      | some n =>
        let told := n.report fault
        ((l.write told.entries).update f.space fun _ => told.value).push
          (f.waiters.map (.notify · f.space none))
      | none => l
    else l.push (f.waiters.map (.notify · f.space (some fault)))

def runFetch (l : Loop) (space number : Nat) : Loop :=
  match l.findFetch? space number, l.service.get? space with
  | some f, some n =>
    let moved := n.backend.advance l.world number f.stage n.storeId
    let l := (l.write moved.entries).update space fun n => { n with backend := moved.value.1 }
    match moved.value.2 with
    | .waits next => l.replaceFetch space number fun f => { f with stage := next }
    | .ends outcome => l.finish f outcome
  | _, _ => l

def perform (l : Loop) : Job → Loop
  | .run task => l.runTask task
  | .fetch space number => l.runFetch space number
  | .notify task space fault => l.push [.resume task space fault]
  | .resume task space fault => l.resumeTask task space fault

def step (l : Loop) : Loop :=
  match l.ready with
  | [] => l
  | job :: rest => { l with ready := rest }.perform job

inductive Event where
  | begin (task : Nat) (target : Target) (calls : List Call)
  | cancel (task : Nat)
  | release (space : Nat)
  | wake (space : Nat)
  | respond (space : Nat) (answers : List (Except Fault Snapshot))
  | setClock (clock : Float)
  | setInterval (space : Nat) (interval : Option Int)
  | setWorld (world : World)

def free (l : Loop) (space : Nat) (f : Scripted → Scripted × List Nat) : Loop :=
  match l.service.get? space with
  | some n =>
    let freed := n.backend.free f
    (l.update space fun n => { n with backend := freed.1 }).push (freed.2.map (.fetch space ·))
  | none => l

/-- A cancelled task makes no more calls; fetches are none of its business. -/
def cancel (l : Loop) (task : Nat) : Loop :=
  match l.tasks.get? task with
  | some t =>
    if t.state = .finished then l else l.setTask task { t with state := .cancelled }
  | none => l

def apply (l : Loop) : Event → Loop
  | .begin task target calls =>
    if l.tasks.contains task then l
    else (l.setTask task ⟨target, calls, [], .ready⟩).push [.run task]
  | .cancel task => l.cancel task
  | .release space => l.free space Scripted.release
  | .wake space => l.free space Scripted.wake
  | .respond space answers =>
    l.update space fun n => { n with backend := n.backend.onDouble (·.respond answers) }
  | .setClock clock => { l with clock := clock }
  | .setInterval space interval => l.update space fun n => { n with interval := interval }
  | .setWorld world => { l with world := world }

def wakeAll (l : Loop) : Loop :=
  (List.range l.service.namespaces.length).foldl (fun l id => l.apply (.wake id)) l

/-- A bound on the turns that are left: each call takes a few, and starts one fetch at most. -/
def work (l : Loop) : Nat :=
  let calls := l.tasks.values.foldr (fun t n => t.calls.length + 1 + n) 0
  16 * (calls + l.fetches.length + l.ready.length + 1)

/-- Takes turns while the queue is not empty, then ends delays and goes on. -/
def settleFor : Nat → Loop → Loop
  | 0, l => l
  | fuel + 1, l =>
    if l.ready.isEmpty then
      let l := l.wakeAll
      if l.ready.isEmpty then l else settleFor fuel l
    else settleFor fuel l.step

def settle (l : Loop) : Loop := settleFor l.work l

def freshTask (l : Loop) : Nat := l.tasks.size

end Loop

end LiveConfig
