import LiveConfig.Proofs.Course
set_option autoImplicit false

/-!
The turn of a fetch. While it waits, its stage moves on. When it ends, it is gone, its namespace
has an empty slot and keeps the snapshot, and all who wait for it are notified.
-/
namespace LiveConfig

def Namespace.land (n : Namespace) (background : Bool) (outcome : Except Fault Snapshot)
    (clock : Float) : Namespace :=
  match outcome with
  | .ok s => n.endFetch.store s clock
  | .error f => if background then (n.endFetch.report f).value else n.endFetch

def Namespace.turn (n : Namespace) (b : Backend) (background : Bool) (clock : Float) :
    Progress → Namespace
  | .waits _ => { n with backend := b }
  | .ends outcome => { n with backend := b }.land background outcome clock

def Fetch.turn (f : Fetch) : Progress → List Fetch
  | .waits next => [{ f with stage := next }]
  | .ends _ => []

def Fetch.news (f : Fetch) : Except Fault Snapshot → Option Fault
  | .ok _ => none
  | .error fault => if f.background then none else some fault

namespace Namespace

theorem report_value (n : Namespace) (f : Fault) :
    (n.report f).value =
      { n with reported := if n.handler = .absent then n.reported else n.reported ++ [f] } := by
  obtain ⟨name, storeId, interval, handler, backend, cached, inFlight, started, reported⟩ := n
  cases handler <;> cases f <;> rfl

/-- The end of a fetch empties the slot, keeps the snapshot if there is one, and may be reported.
Nothing else becomes of a namespace. -/
theorem land_eq (n : Namespace) (background : Bool) (outcome : Except Fault Snapshot)
    (clock : Float) : ∃ reported, n.land background outcome clock =
      { n with
        inFlight := none
        cached := (outcome.toOption.map fun s => ⟨s, clock⟩).or n.cached
        reported := reported } := by
  cases outcome with
  | ok s => exact ⟨_, rfl⟩
  | error f =>
    cases background with
    | false => exact ⟨_, rfl⟩
    | true => exact ⟨_, report_value _ _⟩

theorem turn_eq (n : Namespace) (b : Backend) (background : Bool) (clock : Float) (p : Progress) :
    ∃ inFlight cached reported, n.turn b background clock p =
      { n with backend := b, inFlight := inFlight, cached := cached, reported := reported } := by
  cases p with
  | waits next => exact ⟨_, _, _, rfl⟩
  | ends outcome =>
    obtain ⟨reported, hl⟩ := land_eq { n with backend := b } background outcome clock
    exact ⟨_, _, reported, hl⟩

section Turn
variable (n : Namespace) (b : Backend) (background : Bool) (clock : Float) (p : Progress)

theorem turn_name : (n.turn b background clock p).name = n.name := by
  obtain ⟨_, _, _, h⟩ := n.turn_eq b background clock p
  rw [h]

theorem turn_handler : (n.turn b background clock p).handler = n.handler := by
  obtain ⟨_, _, _, h⟩ := n.turn_eq b background clock p
  rw [h]

/-- The handler is told of the fault of a refresh, and of nothing else. -/
theorem land_reported (outcome : Except Fault Snapshot) :
    (n.land background outcome clock).reported = n.reported ++
      match background, outcome with
      | true, .error f => if n.handler = .absent then [] else [f]
      | _, _ => [] := by
  cases outcome with
  | ok s => cases background <;> simp [land, store, endFetch]
  | error f =>
    cases background with
    | false => simp [land, endFetch]
    | true =>
      simp only [land, if_true, report_value, endFetch]
      split <;> simp

end Turn

end Namespace

namespace Loop

section Finish
variable {l : Loop} {f : Fetch} {n : Namespace} (outcome : Except Fault Snapshot)

theorem finish_get? (hn : l.service.get? f.space = some n) (id : Nat) :
    (l.finish f outcome).service.get? id =
      if f.space = id then some (n.land f.background outcome l.clock)
      else l.service.get? id := by
  by_cases h : f.space = id
  · subst h
    cases outcome with
    | ok s => simp [finish, say, write, push, update, removeFetch, hn, Namespace.land]
    | error fault =>
      cases hb : f.background <;>
        simp [finish, hb, write, push, update, removeFetch, hn, Namespace.land]
  · cases outcome with
    | ok s => simp [finish, say, write, push, update, removeFetch, hn, h]
    | error fault =>
      cases hb : f.background <;> simp [finish, hb, write, push, update, removeFetch, hn, h]

theorem finish_fetches (hn : l.service.get? f.space = some n) :
    (l.finish f outcome).fetches = (l.removeFetch f.space f.number).fetches := by
  cases outcome with
  | ok s => simp [finish, say, write, push, update, removeFetch, hn]
  | error fault =>
    cases hb : f.background <;> simp [finish, hb, write, push, update, removeFetch, hn]

theorem finish_ready (hn : l.service.get? f.space = some n) :
    (l.finish f outcome).ready =
      l.ready ++ f.waiters.map (.notify · f.space (f.news outcome)) := by
  cases outcome with
  | ok s => simp [finish, say, write, push, update, removeFetch, hn, Fetch.news]
  | error fault =>
    cases hb : f.background <;>
      simp [finish, hb, write, push, update, removeFetch, hn, Fetch.news]

theorem finish_tasks (hn : l.service.get? f.space = some n) :
    (l.finish f outcome).tasks = l.tasks := by
  cases outcome with
  | ok s => simp [finish, say, write, push, update, removeFetch, hn]
  | error fault =>
    cases hb : f.background <;> simp [finish, hb, write, push, update, removeFetch, hn]

end Finish

def visited (l : Loop) (space : Nat) (moved : Journaled (Backend × Progress)) : Loop :=
  (l.write moved.entries).update space fun n => { n with backend := moved.value.1 }

theorem Quiet.visited (l : Loop) (space : Nat) (moved : Journaled (Backend × Progress)) :
    Quiet l (l.visited space moved) :=
  ⟨fun j => l.service.map_get?_update space j _ fun _ => rfl, rfl⟩

section RunFetch
variable {l : Loop} {space number : Nat} {f : Fetch} {n : Namespace}

theorem runFetch_waits (hf : l.findFetch? space number = some f)
    (hn : l.service.get? space = some n) {next : Stage}
    (hp : (n.backend.advance l.world number f.stage n.storeId).value.2 = .waits next) :
    l.runFetch space number =
      (l.visited space (n.backend.advance l.world number f.stage n.storeId)).replaceFetch
        space number fun f => { f with stage := next } := by
  simp [runFetch, hf, hn, hp, visited]

theorem runFetch_ends (hf : l.findFetch? space number = some f)
    (hn : l.service.get? space = some n) {outcome : Except Fault Snapshot}
    (hp : (n.backend.advance l.world number f.stage n.storeId).value.2 = .ends outcome) :
    l.runFetch space number =
      (l.visited space (n.backend.advance l.world number f.stage n.storeId)).finish f outcome := by
  simp [runFetch, hf, hn, hp, visited]

theorem visited_get? (hn : l.service.get? space = some n)
    (moved : Journaled (Backend × Progress)) (id : Nat) :
    (l.visited space moved).service.get? id =
      if space = id then some { n with backend := moved.value.1 } else l.service.get? id := by
  simp only [visited, update, write, Service.get?_update]
  split
  next h => rw [← h, hn, Option.map_some]
  next => rfl

theorem runFetch_get? (hf : l.findFetch? f.space f.number = some f)
    (hn : l.service.get? f.space = some n) (id : Nat) :
    (l.runFetch f.space f.number).service.get? id =
      if f.space = id then
        some (n.turn (n.backend.advance l.world f.number f.stage n.storeId).value.1 f.background
          l.clock (n.backend.advance l.world f.number f.stage n.storeId).value.2)
      else l.service.get? id := by
  have hv := visited_get? hn (n.backend.advance l.world f.number f.stage n.storeId)
  cases hp : (n.backend.advance l.world f.number f.stage n.storeId).value.2 with
  | waits next =>
    rw [runFetch_waits hf hn hp]
    exact hv id
  | ends outcome =>
    rw [runFetch_ends hf hn hp, finish_get? outcome ((hv f.space).trans (if_pos rfl)), hv id]
    by_cases h : f.space = id
    · rw [if_pos h, if_pos h]; rfl
    · rw [if_neg h, if_neg h, if_neg h]

end RunFetch

theorem findFetch?_eq_some {l : Loop} {space number : Nat} {f : Fetch}
    (h : l.findFetch? space number = some f) :
    f ∈ l.fetches ∧ f.space = space ∧ f.number = number :=
  ⟨List.mem_of_find?_eq_some h, by simpa using List.find?_some h⟩

section Fixed
variable {α : Type} {g : Namespace → α} (hc : ∀ n n', n.core = n'.core → g n = g n')
  (hs : ∀ n, g n.startFetch = g n) (ht : ∀ n b background clock p,
    g (n.turn b background clock p) = g n)
include hc hs ht

/-- What neither a start nor a turn of a fetch changes, stays. -/
theorem move_map (l : Loop) (m : Move) (id : Nat) :
    ((l.move m).service.get? id).map g = (l.service.get? id).map g := by
  refine move_keeps (P := fun l' => (l'.service.get? id).map g = (l.service.get? id).map g)
    (fun l₁ l₂ hl h => ?_) (fun l' target call h => ?_) (fun l' f n hf hn h => ?_) rfl m
  · rw [← h]
    cases h₂ : l₂.service.get? id with
    | none =>
      have hn := hl.core id
      rw [h₂, Option.map_none, eq_comm, Option.map_eq_none_iff] at hn
      rw [hn]
    | some n₂ =>
      obtain ⟨n₁, h₁, he⟩ := hl.exists_core h₂
      rw [h₁, Option.map_some, Option.map_some, hc n₁ n₂ he]
  · rw [ask_map l' target call id hs, h]
  · rw [← h, runFetch_get? hf hn]
    split
    next he => rw [← he, hn, Option.map_some, Option.map_some, ht]
    next => rfl

theorem run_map (l : Loop) (ms : List Move) (id : Nat) :
    ((l.run ms).service.get? id).map g = (l.service.get? id).map g :=
  run_keeps (P := fun l' => (l'.service.get? id).map g = (l.service.get? id).map g)
    (fun l' m h => (move_map hc hs ht l' m id).trans h) rfl ms

end Fixed

theorem run_name (l : Loop) (ms : List Move) (id : Nat) :
    ((l.run ms).service.get? id).map Namespace.name = (l.service.get? id).map Namespace.name :=
  run_map (fun _ _ h => (Namespace.core_eq_iff.1 h).1) (fun _ => rfl) Namespace.turn_name l ms id

theorem run_handler (l : Loop) (ms : List Move) (id : Nat) :
    ((l.run ms).service.get? id).map Namespace.handler =
      (l.service.get? id).map Namespace.handler :=
  run_map (fun _ _ h => (Namespace.core_eq_iff.1 h).2.2.1) (fun _ => rfl) Namespace.turn_handler
    l ms id

theorem run_isSome (l : Loop) (ms : List Move) (id : Nat) :
    ((l.run ms).service.get? id).isSome = (l.service.get? id).isSome := by
  have h := congrArg Option.isSome (l.run_name ms id)
  rwa [Option.isSome_map, Option.isSome_map] at h

theorem move_isSome (l : Loop) (m : Move) (id : Nat) :
    ((l.move m).service.get? id).isSome = (l.service.get? id).isSome := l.run_isSome [m] id

theorem ask_names (l : Loop) (target : Target) (call : Call) :
    (l.ask target call).1.service.names = l.service.names := by
  obtain ⟨-, ha⟩ | ⟨id, n, notice, -, -, -, -, -, ha⟩ := l.ask_cases target call
  · rw [ha]
  · rw [ha]; rfl

theorem proceed_names (l : Loop) (task : Nat) (target : Target)
    (answers : List (Except Fault Answer)) (calls : List Call) :
    (l.proceed task target answers calls).service.names = l.service.names :=
  proceed_keeps (P := fun l' => l'.service.names = l.service.names)
    (fun l' target call h => (l'.ask_names target call).trans h) (fun _ _ _ h => h)
    (fun _ _ h => h) rfl target answers calls

theorem finish_names (l : Loop) (f : Fetch) (outcome : Except Fault Snapshot) :
    (l.finish f outcome).service.names = l.service.names := by
  unfold finish
  dsimp only
  split
  · split <;> rfl
  · split
    · split <;> rfl
    · rfl

theorem runFetch_names (l : Loop) (space number : Nat) :
    (l.runFetch space number).service.names = l.service.names := by
  unfold runFetch
  split
  · dsimp only
    split
    · rfl
    · exact finish_names _ _ _
  · rfl

theorem perform_names (l : Loop) (job : Job) :
    (l.perform job).service.names = l.service.names := by
  cases job with
  | run task =>
    rw [perform, runTask_eq]
    split
    · exact proceed_names _ _ _ _ _
    · rfl
  | fetch space number => exact l.runFetch_names space number
  | notify task space fault => rfl
  | resume task space fault =>
    rw [perform, resumeTask_eq]
    split
    · exact proceed_names _ _ _ _ _
    · rfl

theorem apply_names (l : Loop) (e : Event) : (l.apply e).service.names = l.service.names := by
  have hfree : ∀ space f, (l.free space f).service.names = l.service.names := fun space f => by
    unfold free
    split <;> rfl
  cases e with
  | begin task target calls => rw [apply]; split <;> rfl
  | cancel task =>
    rw [apply, cancel]
    split
    · split <;> rfl
    · rfl
  | release space => exact hfree space _
  | wake space => exact hfree space _
  | _ => rfl

/-- No name is given or taken while the loop runs. -/
theorem run_names (l : Loop) (ms : List Move) : (l.run ms).service.names = l.service.names := by
  refine run_keeps (P := fun l' => l'.service.names = l.service.names) (fun l' m h => ?_) rfl ms
  rw [← h]
  cases m with
  | event e => exact l'.apply_names e
  | turn =>
    rw [move, step]
    split
    · rfl
    · exact perform_names _ _

end Loop

end LiveConfig
