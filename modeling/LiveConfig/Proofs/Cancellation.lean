import LiveConfig.Proofs.Demand
import LiveConfig.Proofs.Outcome
set_option autoImplicit false

/-!
Cancellation. Two runs that differ in tasks with nothing more to ask, cancelled in the one and not in
the other, go on alike: the same fetches, the same namespaces and the same answers to everyone else.
-/
namespace LiveConfig.Loop

def withTasks (l : Loop) (tasks : Table Nat Task) : Loop := { l with tasks := tasks }

section WithTasks
variable (l : Loop) (tasks : Table Nat Task)

theorem access_withTasks (id : Nat) (n : Namespace) (call : Call) :
    (l.withTasks tasks).access id n call =
      ((l.access id n call).1.withTasks tasks, (l.access id n call).2) := by
  cases hc : n.cached with
  | some c =>
    have hclock : (l.withTasks tasks).clock = l.clock := rfl
    by_cases h : n.isStale l.clock = true ∧ n.inFlight = none
    · simp only [access, hc, hclock, if_pos h]
      rfl
    · simp only [access, hc, hclock, if_neg h]
  | none =>
    cases hi : n.inFlight with
    | some number => simp only [access, hc, hi]
    | none =>
      simp only [access, hc, hi]
      rfl

theorem ask_withTasks (target : Target) (call : Call) :
    (l.withTasks tasks).ask target call =
      ((l.ask target call).1.withTasks tasks, (l.ask target call).2) := by
  simp only [ask, show (l.withTasks tasks).locate target = l.locate target from rfl,
    show (l.withTasks tasks).service = l.service from rfl]
  split
  · rfl
  split
  · rfl
  simp only [begin, show (l.withTasks tasks).clock = l.clock from rfl]
  split
  · rfl
  split
  · split <;> rfl
  · exact l.access_withTasks tasks _ _ _

/-- A task that goes on reads no record of a task and writes its own alone. -/
theorem proceed_withTasks (task : Nat) (target : Target) (answers : List (Except Fault Answer))
    (calls : List Call) : ∃ t, ∀ tasks, (l.withTasks tasks).proceed task target answers calls =
      (l.proceed task target answers calls).withTasks (tasks.insert task t) := by
  induction calls generalizing l answers with
  | nil => exact ⟨_, fun _ => rfl⟩
  | cons call rest ih =>
    simp only [proceed, ask_withTasks]
    cases hask : l.ask target call with
    | mk l' reply =>
      cases reply with
      | now outcome => exact ih l' _
      | later space number => exact ⟨_, fun _ => rfl⟩

theorem finish_withTasks (f : Fetch) (outcome : Except Fault Snapshot) :
    (l.withTasks tasks).finish f outcome = (l.finish f outcome).withTasks tasks := by
  cases outcome with
  | ok s =>
    simp only [finish, removeFetch, update, withTasks]
    split <;> rfl
  | error fault =>
    simp only [finish, removeFetch, update, withTasks]
    split
    · split <;> rfl
    · rfl

theorem runFetch_withTasks (space number : Nat) :
    (l.withTasks tasks).runFetch space number = (l.runFetch space number).withTasks tasks := by
  have hf' : (l.withTasks tasks).findFetch? space number = l.findFetch? space number := rfl
  have hn' : (l.withTasks tasks).service.get? space = l.service.get? space := rfl
  cases hf : l.findFetch? space number with
  | none => simp only [runFetch, hf', hf]
  | some f =>
    cases hn : l.service.get? space with
    | none => simp only [runFetch, hf', hf, hn', hn]
    | some n =>
      have hw : (l.withTasks tasks).world = l.world := rfl
      have hv : ∀ moved, (l.withTasks tasks).visited space moved =
        (l.visited space moved).withTasks tasks := fun _ => rfl
      cases hp : (n.backend.advance l.world number f.stage n.storeId).value.2 with
      | waits next =>
        rw [runFetch_waits hf hn hp, runFetch_waits (hf'.trans hf) (hn'.trans hn) (hw ▸ hp), hw, hv]
        rfl
      | ends outcome =>
        rw [runFetch_ends hf hn hp, runFetch_ends (hf'.trans hf) (hn'.trans hn) (hw ▸ hp), hw, hv]
        exact finish_withTasks _ tasks f outcome

theorem free_withTasks (space : Nat) (f : Scripted → Scripted × List Nat) :
    (l.withTasks tasks).free space f = (l.free space f).withTasks tasks := by
  simp only [free, show (l.withTasks tasks).service = l.service from rfl]
  split <;> rfl

@[simp] theorem visit?_withTasks (m : Move) : (l.withTasks tasks).visit? m = l.visit? m := by
  cases m <;> rfl

end WithTasks

/-- A task asks nothing more: it waits with its last call, or it is done. -/
def Spent (t : Task) : Prop := t.state ≠ .ready ∧ (t.state = .waiting → ∃ call, t.calls = [call])

structure Alike (ts : List Nat) (tasks tasks' : Table Nat Task) : Prop where
  others : ∀ j, j ∉ ts → tasks'.get? j = tasks.get? j
  spent : ∀ j ∈ ts, ∃ t t', tasks.get? j = some t ∧ tasks'.get? j = some t' ∧ Spent t ∧ Spent t'

def Spends (j : Nat) (tasks tasks' : Table Nat Task) : Prop :=
  tasks' = tasks ∨ ∃ t, Spent t ∧ tasks' = tasks.insert j t

namespace Alike
variable {ts : List Nat} {tasks tasks' : Table Nat Task}

theorem refl (h : ∀ j ∈ ts, ∃ t, tasks.get? j = some t ∧ Spent t) : Alike ts tasks tasks :=
  ⟨fun _ _ => rfl, fun j hj => (h j hj).elim fun t ht => ⟨t, t, ht.1, ht.1, ht.2, ht.2⟩⟩

theorem symm (h : Alike ts tasks tasks') : Alike ts tasks' tasks :=
  ⟨fun j hj => (h.others j hj).symm, fun j hj => by
    obtain ⟨t, t', ht, ht', hs, hs'⟩ := h.spent j hj
    exact ⟨t', t, ht', ht, hs', hs⟩⟩

theorem insert (h : Alike ts tasks tasks') {j : Nat} (hj : j ∉ ts) (t : Task) :
    Alike ts (tasks.insert j t) (tasks'.insert j t) := by
  refine ⟨fun i hi => ?_, fun i hi => ?_⟩
  · rw [Table.get?_insert, Table.get?_insert, h.others i hi]
  · have hne : i ≠ j := fun he => hj (he ▸ hi)
    rw [Table.get?_insert, Table.get?_insert, if_neg hne, if_neg hne]
    exact h.spent i hi

theorem spends (h : Alike ts tasks tasks') {j : Nat} (hj : j ∈ ts) {next : Table Nat Task}
    (hs : Spends j tasks next) : Alike ts next tasks' := by
  obtain rfl | ⟨t, ht, rfl⟩ := hs
  · exact h
  refine ⟨fun i hi => ?_, fun i hi => ?_⟩
  · have hne : i ≠ j := fun he => hi (he ▸ hj)
    rw [Table.get?_insert, if_neg hne, h.others i hi]
  · obtain ⟨u, u', hu, hu', hsu, hsu'⟩ := h.spent i hi
    by_cases he : i = j
    · exact ⟨t, u', by rw [Table.get?_insert, if_pos he], hu', ht, hsu'⟩
    · exact ⟨u, u', by rw [Table.get?_insert, if_neg he, hu], hu', hsu, hsu'⟩

theorem both (h : Alike ts tasks tasks') {j : Nat} (hj : j ∈ ts) {next next' : Table Nat Task}
    (hs : Spends j tasks next) (hs' : Spends j tasks' next') : Alike ts next next' :=
  ((h.spends hj hs).symm.spends hj hs').symm

end Alike

section Spends
variable {l : Loop} {j : Nat}

theorem cancel_spends : ∃ tasks, Spends j l.tasks tasks ∧ l.cancel j = l.withTasks tasks := by
  unfold cancel
  split
  · next t ht =>
    split
    · exact ⟨_, .inl rfl, rfl⟩
    · exact ⟨_, .inr ⟨{ t with state := .cancelled }, ⟨nofun, nofun⟩, rfl⟩, rfl⟩
  · exact ⟨_, .inl rfl, rfl⟩

theorem runTask_spent {t : Task} (ht : l.tasks.get? j = some t) (hs : Spent t) :
    l.runTask j = l := by
  rw [runTask, ht]
  exact if_neg hs.1

/-- The last answer of a task is all that its resumption brings. -/
theorem resumeTask_spends {t : Task} (ht : l.tasks.get? j = some t) (hs : Spent t) (space : Nat)
    (fault : Option Fault) : ∃ tasks, Spends j l.tasks tasks ∧
      l.resumeTask j space fault = l.withTasks tasks := by
  rw [resumeTask_eq]
  cases hst : l.stretch? (.resume j space fault) with
  | none => exact ⟨_, .inl rfl, rfl⟩
  | some s =>
    obtain ⟨t', hj, -⟩ | ⟨_, _, t', n, call, rest, hj, ht', hw, hn, hc, he⟩ := stretch?_cases hst
    · cases hj
    · cases hj
      cases ht.symm.trans ht'
      obtain ⟨call', hc'⟩ := hs.2 hw
      cases hc.symm.trans hc'
      rw [he]
      exact ⟨_, .inr ⟨⟨t.target, [], _, .finished⟩, ⟨nofun, nofun⟩, rfl⟩, rfl⟩

end Spends

section Steps
variable {l : Loop} {ts : List Nat} {tasks : Table Nat Task}

/-- A task that is the same in both loops goes on in both. -/
theorem stretch_withTasks (h : Alike ts l.tasks tasks) {s : Stretch} (hs : s.task ∉ ts) :
    ∃ tasks', (l.withTasks tasks).proceed s.task s.target s.answers s.calls =
        (l.proceed s.task s.target s.answers s.calls).withTasks tasks' ∧
      Alike ts (l.proceed s.task s.target s.answers s.calls).tasks tasks' := by
  obtain ⟨t, hp⟩ := l.proceed_withTasks s.task s.target s.answers s.calls
  have ht := congrArg Loop.tasks (hp l.tasks)
  change (l.proceed s.task s.target s.answers s.calls).tasks = l.tasks.insert s.task t at ht
  exact ⟨tasks.insert s.task t, hp tasks, ht ▸ h.insert hs t⟩

theorem perform_withTasks (h : Alike ts l.tasks tasks) (job : Job) :
    ∃ tasks', (l.withTasks tasks).perform job = (l.perform job).withTasks tasks' ∧
      Alike ts (l.perform job).tasks tasks' := by
  cases job with
  | run j =>
    by_cases hj : j ∈ ts
    · obtain ⟨t, t', ht, ht', hs, hs'⟩ := h.spent j hj
      refine ⟨tasks, ?_, ?_⟩
      · rw [perform, perform, runTask_spent ht hs, runTask_spent (l := l.withTasks tasks) ht' hs']
      · rw [perform, runTask_spent ht hs]
        exact h
    · have hst : (l.withTasks tasks).stretch? (.run j) = l.stretch? (.run j) := by
        simp only [stretch?, withTasks, h.others j hj]
      rw [perform, perform, runTask_eq, runTask_eq, hst]
      cases hs : l.stretch? (.run j) with
      | none => exact ⟨tasks, rfl, h⟩
      | some s =>
        obtain ⟨_, he, -⟩ | ⟨_, _, _, _, _, _, he, -⟩ := stretch?_cases hs
        · cases he
          exact stretch_withTasks h hj
        · cases he
  | resume j space fault =>
    by_cases hj : j ∈ ts
    · obtain ⟨t, t', ht, ht', hs, hs'⟩ := h.spent j hj
      obtain ⟨next, hn, he⟩ := resumeTask_spends ht hs space fault
      obtain ⟨next', hn', he'⟩ := resumeTask_spends (l := l.withTasks tasks) ht' hs' space fault
      refine ⟨next', ?_, ?_⟩
      · rw [perform, perform, he, he']
        rfl
      · rw [perform, he]
        exact h.both hj hn hn'
    · have hst : (l.withTasks tasks).stretch? (.resume j space fault) =
          l.stretch? (.resume j space fault) := by
        simp only [stretch?, withTasks, h.others j hj]
      rw [perform, perform, resumeTask_eq, resumeTask_eq, hst]
      cases hs : l.stretch? (.resume j space fault) with
      | none => exact ⟨tasks, rfl, h⟩
      | some s =>
        obtain ⟨_, he, -⟩ | ⟨_, _, _, _, _, _, he, -⟩ := stretch?_cases hs
        · cases he
        · cases he
          exact stretch_withTasks h hj
  | notify j space fault => exact ⟨tasks, rfl, h⟩
  | fetch space number =>
    have ht := congrArg Loop.tasks (l.runFetch_withTasks l.tasks space number)
    change (l.perform (.fetch space number)).tasks = l.tasks at ht
    exact ⟨tasks, l.runFetch_withTasks tasks space number, ht ▸ h⟩

theorem apply_withTasks (h : Alike ts l.tasks tasks) (e : Event) :
    ∃ tasks', (l.withTasks tasks).apply e = (l.apply e).withTasks tasks' ∧
      Alike ts (l.apply e).tasks tasks' := by
  have hfree : ∀ space f, ∃ tasks', (l.withTasks tasks).free space f =
      (l.free space f).withTasks tasks' ∧ Alike ts (l.free space f).tasks tasks' := by
    intro space f
    have ht := congrArg Loop.tasks (l.free_withTasks l.tasks space f)
    change (l.free space f).tasks = l.tasks at ht
    exact ⟨tasks, l.free_withTasks tasks space f, ht ▸ h⟩
  cases e with
  | begin j target calls =>
    by_cases hj : j ∈ ts
    · obtain ⟨t, t', ht, ht', -⟩ := h.spent j hj
      refine ⟨tasks, ?_, ?_⟩
      · simp [apply, withTasks, Table.contains, ht, ht']
      · simpa [apply, Table.contains, ht] using h
    · have hc : (l.withTasks tasks).tasks.contains j = l.tasks.contains j := by
        rw [Table.contains, Table.contains, ← h.others j hj]
        rfl
      rw [apply, apply, hc]
      split
      · exact ⟨tasks, rfl, h⟩
      · exact ⟨_, rfl, h.insert hj _⟩
  | cancel j =>
    by_cases hj : j ∈ ts
    · obtain ⟨next, hn, he⟩ := cancel_spends (l := l) (j := j)
      obtain ⟨next', hn', he'⟩ := cancel_spends (l := l.withTasks tasks) (j := j)
      refine ⟨next', ?_, ?_⟩
      · rw [apply, apply, he, he']
        rfl
      · rw [apply, he]
        exact h.both hj hn hn'
    · have ht : (l.withTasks tasks).tasks.get? j = l.tasks.get? j := h.others j hj
      rw [apply, apply, cancel, cancel, ht]
      split
      · split
        · exact ⟨tasks, rfl, h⟩
        · exact ⟨_, rfl, h.insert hj _⟩
      · exact ⟨tasks, rfl, h⟩
  | release space => exact hfree space _
  | wake space => exact hfree space _
  | _ => exact ⟨tasks, rfl, h⟩

theorem move_withTasks (h : Alike ts l.tasks tasks) (m : Move) :
    ∃ tasks', (l.withTasks tasks).move m = (l.move m).withTasks tasks' ∧
      Alike ts (l.move m).tasks tasks' := by
  cases m with
  | event e => exact apply_withTasks h e
  | turn =>
    cases hr : l.ready with
    | nil =>
      have hm : l.move .turn = l := by simp [move, step, hr]
      have hm' : (l.withTasks tasks).move .turn = l.withTasks tasks := by
        simp [move, step, withTasks, hr]
      exact ⟨tasks, by rw [hm, hm'], by rw [hm]; exact h⟩
    | cons job rest =>
      have hm : l.move .turn = l.dequeue.perform job := step_of_ready hr
      have hm' : (l.withTasks tasks).move .turn = (l.dequeue.withTasks tasks).perform job :=
        step_of_ready (l := l.withTasks tasks) hr
      rw [hm, hm']
      exact perform_withTasks (l := l.dequeue) h job

theorem run_withTasks (h : Alike ts l.tasks tasks) (ms : List Move) :
    ∃ tasks', (l.withTasks tasks).run ms = (l.run ms).withTasks tasks' ∧
      Alike ts (l.run ms).tasks tasks' ∧ (l.withTasks tasks).visits ms = l.visits ms := by
  induction ms generalizing l tasks with
  | nil => exact ⟨tasks, rfl, h, rfl⟩
  | cons m ms ih =>
    obtain ⟨next, hm, hn⟩ := move_withTasks h m
    obtain ⟨tasks', hr, ht, hv⟩ := ih hn
    exact ⟨tasks', by rw [run_cons, hm, hr]; rfl, ht, by rw [visits, visits, hm, hv, visit?_withTasks]⟩

end Steps

def cancelAll (l : Loop) (ts : List Nat) : Loop := l.run (ts.map fun j => .event (.cancel j))

theorem cancelAll_withTasks {l : Loop} {ts us : List Nat} {tasks : Table Nat Task}
    (h : Alike ts l.tasks tasks) (hu : us ⊆ ts) : ∃ tasks',
      (l.withTasks tasks).cancelAll us = l.withTasks tasks' ∧ Alike ts l.tasks tasks' := by
  induction us generalizing tasks with
  | nil => exact ⟨tasks, rfl, h⟩
  | cons j us ih =>
    obtain ⟨next, hn, he⟩ := cancel_spends (l := l.withTasks tasks) (j := j)
    obtain ⟨tasks', hr, ht⟩ := ih (h.symm.spends (hu List.mem_cons_self) hn).symm
      fun i hi => hu (List.mem_cons_of_mem j hi)
    refine ⟨tasks', ?_, ht⟩
    have hm : (l.withTasks tasks).move (.event (.cancel j)) = l.withTasks next := he
    rw [cancelAll, List.map_cons, run_cons, hm]
    exact hr

/-- A cancelled task stays as it is. -/
theorem move_cancelled {l : Loop} {j : Nat} {t : Task} (ht : l.tasks.get? j = some t)
    (hs : t.state = .cancelled) (m : Move) : (l.move m).tasks.get? j = some t := by
  obtain hm | ⟨-, hm⟩ | ⟨job, rest, s, -, -, hst, rfl, -⟩ := move_task (m := m) ht
  · exact hm
  · rw [hm, ← hs]
  · obtain ⟨t', -, ht', hs', -⟩ | ⟨_, _, t', _, _, _, -, ht', hs', -⟩ := stretch?_cases hst
    all_goals
      cases ht.symm.trans ht'
      cases hs.symm.trans hs'

theorem run_cancelled {l : Loop} {j : Nat} {t : Task} (ht : l.tasks.get? j = some t)
    (hs : t.state = .cancelled) (ms : List Move) : (l.run ms).tasks.get? j = some t :=
  run_keeps (P := fun l => l.tasks.get? j = some t) (fun _ m h => move_cancelled h hs m) ht ms

theorem cancelAll_task {l : Loop} {ts : List Nat} {j : Nat} (hj : j ∈ ts) {t : Task}
    (ht : l.tasks.get? j = some t) (hs : t.state ≠ .finished) :
    (l.cancelAll ts).tasks.get? j = some { t with state := .cancelled } := by
  induction ts generalizing l with
  | nil => cases hj
  | cons i ts ih =>
    rw [cancelAll, List.map_cons, run_cons]
    by_cases he : j = i
    · subst he
      refine run_cancelled ?_ rfl _
      simp [move, apply, cancel, ht, hs, setTask]
    · refine ih ((List.mem_cons.1 hj).resolve_left he) ?_
      simp only [move, apply, cancel]
      split
      · split
        · exact ht
        · exact (Table.get?_insert ..).trans ((if_neg he).trans ht)
      · exact ht

structure WaitsLast (l : Loop) (j : Nat) (t : Task) : Prop where
  task : l.tasks.get? j = some t
  state : t.state = .waiting
  call : ∃ call, t.calls = [call]

/-- What it means that waiting tasks are cancelled: nothing but their own records changes, now and
in every continuation, when the run is compared with the same one without the cancellations. They
stay as they were when they were cancelled. All other tasks have the same answers, and the same
fetches are started, come to their backends and end in the same way. -/
structure Isolation (l : Loop) (ts : List Nat) (ms : List Move) : Prop where
  now : l.cancelAll ts = { l with tasks := (l.cancelAll ts).tasks }
  later : (l.cancelAll ts).run ms = { l.run ms with tasks := ((l.cancelAll ts).run ms).tasks }
  others : ∀ j, j ∉ ts → ((l.cancelAll ts).run ms).tasks.get? j = (l.run ms).tasks.get? j
  cancelled : ∀ j t, j ∈ ts → l.tasks.get? j = some t →
    ((l.cancelAll ts).run ms).tasks.get? j = some { t with state := .cancelled }
  visits : (l.cancelAll ts).visits ms = l.visits ms
  launched : ∀ id, launched id ((l.cancelAll ts).calls ms) = launched id (l.calls ms)

theorem isolation {l : Loop} {ts : List Nat} (h : ∀ j ∈ ts, ∃ t, WaitsLast l j t)
    (ms : List Move) : Isolation l ts ms := by
  have hspent : ∀ j ∈ ts, ∃ t, l.tasks.get? j = some t ∧ Spent t := fun j hj => by
    obtain ⟨t, ht⟩ := h j hj
    exact ⟨t, ht.task, by rw [ht.state]; exact nofun, fun _ => ht.call⟩
  obtain ⟨tasks, hnow, halike⟩ := cancelAll_withTasks (.refl hspent) (List.Subset.refl ts)
  obtain ⟨tasks', hrun, halike', hvisits⟩ := run_withTasks halike ms
  change l.cancelAll ts = l.withTasks tasks at hnow
  refine ⟨by rw [hnow]; rfl, by rw [hnow, hrun]; rfl, ?_, fun j t hj ht => ?_, by rw [hnow, hvisits],
    fun id => ?_⟩
  · rw [hnow, hrun]
    exact halike'.others
  · refine run_cancelled (cancelAll_task hj ht ?_) rfl ms
    obtain ⟨t', ht'⟩ := h j hj
    cases ht.symm.trans ht'.task
    rw [ht'.state]
    exact nofun
  · have hr := l.run_started ms id
    have hr' := (l.withTasks tasks).run_started ms id
    rw [hrun] at hr'
    rw [hnow]
    exact List.append_cancel_left (hr'.trans hr.symm)

/-- Both tasks are cancelled that wait for the first fetch, the one among them that has started it.
The fetch fails, and the task after them is served all the same. -/
theorem isolation_held : (∀ j ∈ [0, 1], ∃ t, WaitsLast (held.run waiting) j t) ∧
    Isolation (held.run waiting) [0, 1] (recovered.drop 5 ++ [.turn, .turn]) ∧
    (((held.run waiting).cancelAll [0, 1]).run (recovered.drop 5 ++ [.turn, .turn])).answer? 2 0 =
      some (.ok (.snapshot .empty)) := by
  have hw : ∀ j ∈ [0, 1], ∃ t, WaitsLast (held.run waiting) j t :=
    List.forall_mem_cons.2 ⟨⟨_, rfl, rfl, _, rfl⟩,
      List.forall_mem_cons.2 ⟨⟨_, rfl, rfl, _, rfl⟩, nofun⟩⟩
  exact ⟨hw, isolation hw _, rfl⟩

end LiveConfig.Loop
