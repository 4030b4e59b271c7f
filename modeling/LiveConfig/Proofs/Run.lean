import LiveConfig.Loop
set_option autoImplicit false

/-!
Runs of the loop: turns and what comes from outside, in any order. A run is seen through the calls
that tasks make, each with the loop as it finds it, and through the turns of fetches at their
backends.
-/
namespace LiveConfig

structure Namespace.IsFresh (n : Namespace) : Prop where
  cached : n.cached = none
  inFlight : n.inFlight = none
  started : n.started = 0
  reported : n.reported = []

def Service.IsFresh (s : Service) : Prop := ∀ n ∈ s.namespaces, n.IsFresh

theorem Namespace.fresh_isFresh (backend : Backend) (storeId : String) (interval : Option Int)
    (name : Option String) : (fresh backend storeId interval name).IsFresh := ⟨rfl, rfl, rfl, rfl⟩

theorem Service.empty_isFresh : empty.IsFresh := fun _ h => absurd h List.not_mem_nil

theorem Service.IsFresh.adopt {s : Service} (h : s.IsFresh) {n : Namespace} (hn : n.IsFresh) :
    (s.adopt n).1.IsFresh := by
  intro m hm
  rcases List.mem_append.1 hm with hm | hm
  · exact h m hm
  · exact List.mem_singleton.1 hm ▸ hn

theorem Service.IsFresh.get? {s : Service} (h : s.IsFresh) {id : Nat} {n : Namespace}
    (hn : s.get? id = some n) : n.IsFresh := h n (List.mem_of_getElem? hn)

namespace Loop

structure IsFresh (l : Loop) : Prop where
  service : l.service.IsFresh
  tasks : l.tasks = .empty
  fetches : l.fetches = []
  ready : l.ready = []

theorem start_isFresh {service : Service} (h : service.IsFresh) (world : World) (clock : Float) :
    (start service world clock).IsFresh := ⟨h, rfl, rfl, rfl⟩

inductive Move where
  | turn
  | event (e : Event)

def move (l : Loop) : Move → Loop
  | .turn => l.step
  | .event e => l.apply e

def run (l : Loop) (ms : List Move) : Loop := ms.foldl move l

@[simp] theorem run_nil (l : Loop) : l.run [] = l := rfl

@[simp] theorem run_cons (l : Loop) (m : Move) (ms : List Move) :
    l.run (m :: ms) = (l.move m).run ms := rfl

@[simp] theorem run_append (l : Loop) (ms ms' : List Move) :
    l.run (ms ++ ms') = (l.run ms).run ms' := List.foldl_append

theorem run_concat (l : Loop) (ms : List Move) (m : Move) :
    l.run (ms ++ [m]) = (l.run ms).move m := l.run_append ms [m]

theorem run_keeps {P : Loop → Prop} (hm : ∀ l m, P l → P (l.move m)) {l : Loop} (h : P l)
    (ms : List Move) : P (l.run ms) := by
  induction ms generalizing l with
  | nil => exact h
  | cons m ms ih => exact ih (hm l m h)

/-- A call with the loop that it finds. The index is the number of calls that its task has made
before. -/
structure Asked where
  loop : Loop
  task : Nat
  index : Nat
  target : Target
  call : Call

def asking (l : Loop) (task : Nat) (target : Target) (index : Nat) : List Call → List Asked
  | [] => []
  | call :: rest =>
    ⟨l, task, index, target, call⟩ ::
      match l.ask target call with
      | (l, .now _) => l.asking task target (index + 1) rest
      | (_, .later _ _) => []

structure Stretch where
  task : Nat
  target : Target
  answers : List (Except Fault Answer)
  calls : List Call

def stretch? (l : Loop) : Job → Option Stretch
  | .run task =>
    match l.tasks.get? task with
    | some t => if t.state = .ready then some ⟨task, t.target, t.answers, t.calls⟩ else none
    | none => none
  | .resume task space fault =>
    match l.tasks.get? task, l.service.get? space with
    | some t, some n =>
      match t.state, t.calls with
      | .waiting, call :: rest => some ⟨task, t.target, t.answers ++ [conclude n call fault], rest⟩
      | _, _ => none
    | _, _ => none
  | .fetch _ _ | .notify _ _ _ => none

def dequeue (l : Loop) : Loop := { l with ready := l.ready.tail }

theorem step_of_ready {l : Loop} {job : Job} {rest : List Job} (h : l.ready = job :: rest) :
    l.step = l.dequeue.perform job := by simp [step, dequeue, h]

def asked (l : Loop) : Move → List Asked
  | .turn =>
    match l.ready with
    | [] => []
    | job :: _ =>
      match l.stretch? job with
      | some s => l.dequeue.asking s.task s.target s.answers.length s.calls
      | none => []
  | .event _ => []

def calls (l : Loop) : List Move → List Asked
  | [] => []
  | m :: ms => l.asked m ++ (l.move m).calls ms

@[simp] theorem calls_append (l : Loop) (ms ms' : List Move) :
    l.calls (ms ++ ms') = l.calls ms ++ (l.run ms).calls ms' := by
  induction ms generalizing l with
  | nil => rfl
  | cons m ms ih => simp [calls, ih, List.append_assoc]

/-- The turn of a fetch at its backend: the fetch before it, and how far it comes. -/
structure Visited where
  fetch : Fetch
  progress : Progress
  clock : Float

structure Landing where
  fetch : Fetch
  outcome : Except Fault Snapshot
  clock : Float

def Visited.landing? (v : Visited) : Option Landing :=
  match v.progress with
  | .ends outcome => some ⟨v.fetch, outcome, v.clock⟩
  | .waits _ => none

def visit? (l : Loop) : Move → Option Visited
  | .turn =>
    match l.ready with
    | .fetch space number :: _ =>
      match l.findFetch? space number, l.service.get? space with
      | some f, some n =>
        some ⟨f, (n.backend.advance l.world number f.stage n.storeId).value.2, l.clock⟩
      | _, _ => none
    | _ => none
  | .event _ => none

def visits (l : Loop) : List Move → List Visited
  | [] => []
  | m :: ms => (l.visit? m).toList ++ (l.move m).visits ms

@[simp] theorem visits_append (l : Loop) (ms ms' : List Move) :
    l.visits (ms ++ ms') = l.visits ms ++ (l.run ms).visits ms' := by
  induction ms generalizing l with
  | nil => rfl
  | cons m ms ih => simp [visits, ih, List.append_assoc]

def landings (l : Loop) (ms : List Move) : List Landing :=
  (l.visits ms).filterMap Visited.landing?

end Loop

end LiveConfig
