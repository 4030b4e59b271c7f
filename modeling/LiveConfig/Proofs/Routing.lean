import LiveConfig.Proofs.Cancellation
import LiveConfig.Proofs.Registry
set_option autoImplicit false

/-!
Calls on a service. Where it has one namespace they are calls on that one, with the same answers
and the same effects for good, whatever is registered later; where it has none, or several, they
fail and do nothing.
-/
namespace LiveConfig

namespace Service

/-- A service with one name has one that is meant without a name. -/
theorem exists_only {s : Service} (h : s.nameList.length = 1) :
    ∃ name id, s.nameList = [name] ∧ s.find name = .ok id ∧ s.only = .ok id := by
  obtain ⟨name, hname⟩ := List.length_eq_one_iff.1 h
  obtain ⟨⟨key, id⟩, he, rfl⟩ := List.map_eq_singleton_iff.1 hname
  have hg : s.names.get? key = some id := by
    rw [Table.get?, he]
    exact List.lookup_cons_self
  exact ⟨key, id, hname, by rw [find, hg], by rw [only, he]⟩

theorem only_of_none {s : Service} (h : s.nameList = []) : s.only = .error .noNamespaces := by
  rw [only, List.map_eq_nil_iff.1 h]

theorem only_of_several {s : Service} (h : 2 ≤ s.nameList.length) :
    s.only = .error (.ambiguousNamespace s.nameList) := by
  rw [nameList, Table.keys, List.length_map] at h
  rw [only]
  split
  next he => simp [he] at h
  next he => simp [he] at h
  next => rfl

end Service

namespace Loop

structure Readdressed (task : Nat) (target : Target) (l l' : Loop) : Prop where
  rest : l' = l.withTasks l'.tasks
  tasks : ∀ j, l'.tasks.get? j =
    (l.tasks.get? j).map fun t => if j = task then { t with target := target } else t
  spent : ∃ t, l.tasks.get? task = some t ∧ Spent t

namespace Readdressed
variable {task : Nat} {target : Target} {l l' : Loop}

theorem get?_other (h : Readdressed task target l l') {j : Nat} (hj : j ≠ task) :
    l'.tasks.get? j = l.tasks.get? j := by
  simp [h.tasks, hj]

theorem get?_self (h : Readdressed task target l l') {t : Task}
    (ht : l.tasks.get? task = some t) : l'.tasks.get? task = some { t with target := target } := by
  simp [h.tasks, ht]

/-- What leaves the records of tasks alone has the same effect in both. -/
theorem congr (h : Readdressed task target l l') {f : Loop → Loop}
    (hf : ∀ l tasks, f (l.withTasks tasks) = (f l).withTasks tasks) :
    Readdressed task target (f l) (f l') := by
  have ht : ∀ l, (f l).tasks = l.tasks := fun l => by
    have hl := congrArg Loop.tasks (hf l l.tasks)
    exact hl
  refine ⟨?_, fun j => ?_, ?_⟩
  · rw [ht, ← hf, ← h.rest]
  · rw [ht, ht]
    exact h.tasks j
  · rw [ht]
    exact h.spent

theorem setTask (h : Readdressed task target l l') {t : Task} (hs : Spent t) :
    Readdressed task target (l.setTask task t) (l'.setTask task { t with target := target }) := by
  refine ⟨?_, fun j => ?_, t, by simp [Loop.setTask], hs⟩
  · rw [h.rest]
    rfl
  · rw [Loop.setTask, Table.get?_insert, Loop.setTask, Table.get?_insert, h.tasks]
    by_cases hj : j = task <;> simp [hj]

theorem setTask_both (l : Loop) {t : Task} (hs : Spent t) :
    Readdressed task target (l.setTask task t) (l.setTask task { t with target := target }) := by
  refine ⟨rfl, fun j => ?_, t, by simp [Loop.setTask], hs⟩
  rw [Loop.setTask, Table.get?_insert, Loop.setTask, Table.get?_insert]
  by_cases hj : j = task <;> simp [hj]

section Other
variable (h : Readdressed task target l l') {j : Nat} (hj : j ≠ task)
include h hj

theorem setTask_other (t : Task) :
    Readdressed task target (l.setTask j t) (l'.setTask j t) := by
  refine ⟨?_, fun i => ?_, ?_⟩
  · rw [h.rest]
    rfl
  · rw [Loop.setTask, Table.get?_insert, Loop.setTask, Table.get?_insert, h.tasks]
    by_cases hi : i = j
    · simp [hi, hj]
    · simp [hi]
  · obtain ⟨u, hu, hs⟩ := h.spent
    exact ⟨u, by rw [Loop.setTask, Table.get?_insert, if_neg (Ne.symm hj), hu], hs⟩

theorem proceed_other (target' : Target) (answers : List (Except Fault Answer))
    (calls : List Call) : Readdressed task target (l.proceed j target' answers calls)
      (l'.proceed j target' answers calls) := by
  obtain ⟨t, hp⟩ := l.proceed_withTasks j target' answers calls
  have ho := h.setTask_other hj t
  have ht : (l.proceed j target' answers calls).tasks = (l.setTask j t).tasks := by
    have hl := congrArg Loop.tasks (hp l.tasks)
    exact hl
  have hp' : l'.proceed j target' answers calls =
      (l.proceed j target' answers calls).withTasks (l'.setTask j t).tasks := by
    rw [h.rest]
    exact hp l'.tasks
  rw [hp']
  refine ⟨rfl, fun i => ?_, ?_⟩
  · rw [ht]
    exact ho.tasks i
  · rw [ht]
    exact ho.spent

theorem runTask_other : Readdressed task target (l.runTask j) (l'.runTask j) := by
  have ht := h.get?_other hj
  cases hl : l.tasks.get? j with
  | none => simpa only [runTask, ht, hl] using h
  | some t =>
    simp only [runTask, ht, hl]
    split
    · exact h.proceed_other hj ..
    · exact h

theorem resumeTask_other (space : Nat) (fault : Option Fault) :
    Readdressed task target (l.resumeTask j space fault) (l'.resumeTask j space fault) := by
  have ht := h.get?_other hj
  have hs : l'.service = l.service := by rw [h.rest]; rfl
  unfold Loop.resumeTask
  rw [ht, hs]
  split
  · split
    · exact h.proceed_other hj ..
    · exact h
  · exact h

end Other

/-- The last answer is the same whomever the task asks. -/
theorem resumeTask (h : Readdressed task target l l') (space : Nat) (fault : Option Fault) :
    Readdressed task target (l.resumeTask task space fault) (l'.resumeTask task space fault) := by
  obtain ⟨t, ht, hs⟩ := h.spent
  have ht' := h.get?_self ht
  have hsv : l'.service = l.service := by rw [h.rest]; rfl
  unfold Loop.resumeTask
  rw [ht, ht', hsv]
  cases l.service.get? space with
  | none => exact h
  | some n =>
    obtain ⟨own, calls, answers, state⟩ := t
    cases state with
    | waiting =>
      obtain ⟨call, rfl⟩ : ∃ call, calls = [call] := hs.2 rfl
      exact h.setTask ⟨nofun, nofun⟩
    | _ => exact h

theorem perform (h : Readdressed task target l l') (job : Job) :
    Readdressed task target (l.perform job) (l'.perform job) := by
  cases job with
  | run j =>
    by_cases hj : j = task
    · subst hj
      obtain ⟨t, ht, hs⟩ := h.spent
      rw [Loop.perform, Loop.perform, runTask_spent ht hs, runTask_spent (h.get?_self ht) hs]
      exact h
    · exact h.runTask_other hj
  | resume j space fault =>
    by_cases hj : j = task
    · subst hj
      exact h.resumeTask space fault
    · exact h.resumeTask_other hj space fault
  | notify j space fault => exact h.congr (f := (·.push [.resume j space fault])) fun _ _ => rfl
  | fetch space number =>
    exact h.congr (f := (·.runFetch space number)) fun l tasks =>
      l.runFetch_withTasks tasks space number

theorem apply (h : Readdressed task target l l') (e : Event) :
    Readdressed task target (l.apply e) (l'.apply e) := by
  cases e with
  | begin j target' calls =>
    have hc : l'.tasks.contains j = l.tasks.contains j := by
      rw [Table.contains, Table.contains, h.tasks, Option.isSome_map]
    rw [Loop.apply, Loop.apply, hc]
    split
    · exact h
    · next hnew =>
      have hj : j ≠ task := by
        rintro rfl
        obtain ⟨t, ht, -⟩ := h.spent
        simp [Table.contains, ht] at hnew
      exact (h.setTask_other hj _).congr (f := (·.push [.run j])) fun _ _ => rfl
  | cancel j =>
    rw [Loop.apply, Loop.apply]
    by_cases hj : j = task
    · subst hj
      obtain ⟨t, ht, -⟩ := h.spent
      simp only [Loop.cancel, ht, h.get?_self ht]
      split
      · exact h
      · exact h.setTask (t := { t with state := .cancelled }) ⟨by simp, by simp⟩
    · simp only [Loop.cancel, h.get?_other hj]
      split
      · split
        · exact h
        · exact h.setTask_other hj _
      · exact h
  | release space => exact h.congr (f := (·.free space _)) fun l tasks => l.free_withTasks tasks ..
  | wake space => exact h.congr (f := (·.free space _)) fun l tasks => l.free_withTasks tasks ..
  | respond space answers => exact h.congr (f := (·.apply (.respond space answers))) fun _ _ => rfl
  | setClock clock => exact h.congr (f := (·.apply (.setClock clock))) fun _ _ => rfl
  | setInterval space interval =>
    exact h.congr (f := (·.apply (.setInterval space interval))) fun _ _ => rfl
  | setWorld world => exact h.congr (f := (·.apply (.setWorld world))) fun _ _ => rfl

theorem move (h : Readdressed task target l l') (m : Move) :
    Readdressed task target (l.move m) (l'.move m) := by
  cases m with
  | event e => exact h.apply e
  | turn =>
    have hd : Readdressed task target l.dequeue l'.dequeue := h.congr fun _ _ => rfl
    have hready : l'.ready = l.ready := by rw [h.rest]; rfl
    cases hr : l.ready with
    | nil =>
      have hm : l.move .turn = l := by simp [Loop.move, step, hr]
      have hm' : l'.move .turn = l' := by simp [Loop.move, step, hready, hr]
      rw [hm, hm']
      exact h
    | cons job rest =>
      rw [show l.move .turn = l.dequeue.perform job from step_of_ready hr,
        show l'.move .turn = l'.dequeue.perform job from step_of_ready (hready.trans hr)]
      exact hd.perform job

theorem act (h : Readdressed task target l l') (d : Deed) :
    Readdressed task target (l.act d) (l'.act d) := by
  cases d with
  | move m => exact h.move m
  | make n => exact h.congr (f := (·.act (.make n))) fun _ _ => rfl
  | register name id => exact h.congr (f := (·.act (.register name id))) fun _ _ => rfl

theorem live (h : Readdressed task target l l') (ds : List Deed) :
    Readdressed task target (l.live ds) (l'.live ds) := by
  induction ds generalizing l l' with
  | nil => exact h
  | cons d ds ih => exact ih (h.act d)

end Readdressed

/-- The calls of a service are calls of one of its namespaces. Each does at once what the same call
does there. A task whose last call it is fares as if it had asked the namespace, and so does
everything else, whatever happens afterwards. -/
structure Delegates (l : Loop) (id : Nat) : Prop where
  call : ∀ call, l.ask .only call = l.ask (.space id) call
  onward : ∀ task answers call ds, Readdressed task (.space id)
    ((l.proceed task .only answers [call]).live ds)
    ((l.proceed task (.space id) answers [call]).live ds)

structure Refuses (l : Loop) (f : Fault) : Prop where
  call : ∀ call, l.ask .only call = (l, .now (.error f))
  task : ∀ task answers call, l.proceed task .only answers [call] =
    l.setTask task ⟨.only, [], answers ++ [.error f], .finished⟩

theorem delegates_of_only {l : Loop} {id : Nat} (h : l.service.only = .ok id) :
    l.Delegates id := by
  have ha : ∀ call, l.ask .only call = l.ask (.space id) call := fun call => by
    simp only [ask, locate, h]
  refine ⟨ha, fun task answers call ds => Readdressed.live ?_ ds⟩
  simp only [proceed, ha]
  cases hask : l.ask (.space id) call with
  | mk l' reply =>
    cases reply with
    | now outcome =>
      exact Readdressed.setTask_both l' (t := ⟨.only, [], _, .finished⟩) ⟨by simp, by simp⟩
    | later space number =>
      exact Readdressed.setTask_both _ (t := ⟨.only, [call], answers, .waiting⟩)
        ⟨by simp, fun _ => ⟨call, rfl⟩⟩

theorem refuses_of_only {l : Loop} {f : Fault} (h : l.service.only = .error f) :
    l.Refuses f := by
  have ha : ∀ call, l.ask .only call = (l, .now (.error f)) := fun call => by
    simp only [ask, locate, h]
  refine ⟨ha, fun task answers call => ?_⟩
  rw [proceed, ha]
  rfl

structure Routing (l : Loop) : Prop where
  single : l.service.nameList.length = 1 → ∃ name id, l.service.nameList = [name] ∧
    l.service.find name = .ok id ∧ l.Delegates id
  none : l.service.nameList = [] → l.Refuses .noNamespaces
  several : 2 ≤ l.service.nameList.length → l.Refuses (.ambiguousNamespace l.service.nameList)

/-- Throughout the history of a service, its names and its calls are as they should be. -/
theorem routing (world : World) (clock : Float) (ds : List Deed) :
    Registry ((start .empty world clock).live ds) ds ∧
      Routing ((start .empty world clock).live ds) := by
  refine ⟨registry world clock ds, fun h => ?_, fun h => ?_, fun h => ?_⟩
  · obtain ⟨name, id, hname, hfind, honly⟩ := Service.exists_only h
    exact ⟨name, id, hname, hfind, delegates_of_only honly⟩
  · exact refuses_of_only (Service.only_of_none h)
  · exact refuses_of_only (Service.only_of_several h)

end Loop

end LiveConfig
