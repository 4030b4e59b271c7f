import LiveConfig.Proofs.Residence
set_option autoImplicit false

/-!
What belongs to one namespace: its slot, its fetches, the tasks that ask it and the jobs of both in
the queue. An operation on another namespace leaves all this as it is; one on the namespace itself
reads nothing else.
-/
namespace LiveConfig

namespace Loop

def queue (home : Nat → Nat) (l : Loop) (id : Nat) : List Job :=
  l.ready.filter fun j => j.home home = id

/-- Two loops in which one namespace and all that belongs to it are the same. -/
structure Agree (home : Nat → Nat) (id : Nat) (l l' : Loop) : Prop where
  names : l'.service.names = l.service.names
  clock : l'.clock = l.clock
  world : l'.world = l.world
  space : l'.service.get? id = l.service.get? id
  flights : l'.flights id = l.flights id
  queue : l'.queue home id = l.queue home id
  tasks : ∀ j, home j = id → l'.tasks.get? j = l.tasks.get? j

theorem findFetch?_flights (l : Loop) (id number : Nat) :
    l.findFetch? id number = (l.flights id).find? fun f => f.space = id ∧ f.number = number := by
  rw [findFetch?, flights, List.find?_filter]
  congr 1
  funext f
  by_cases h : f.space = id <;> simp [h]

theorem startFetch_queue (home : Nat → Nat) (l : Loop) (space : Nat) (n : Namespace) (b : Bool)
    (id : Nat) : (l.startFetch space n b).queue home id =
      l.queue home id ++ if space = id then [.fetch space n.started] else [] := by
  simp only [queue, startFetch, update, List.filter_append]
  by_cases h : space = id <;> simp [Job.home, h]

namespace Agree
variable {home : Nat → Nat} {id : Nat} {l l' l'' : Loop}

theorem refl (l : Loop) : Agree home id l l := ⟨rfl, rfl, rfl, rfl, rfl, rfl, fun _ _ => rfl⟩

theorem symm (h : Agree home id l l') : Agree home id l' l :=
  ⟨h.names.symm, h.clock.symm, h.world.symm, h.space.symm, h.flights.symm, h.queue.symm,
    fun j hj => (h.tasks j hj).symm⟩

theorem trans (h : Agree home id l l') (h' : Agree home id l' l'') : Agree home id l l'' :=
  ⟨h'.names.trans h.names, h'.clock.trans h.clock, h'.world.trans h.world, h'.space.trans h.space,
    h'.flights.trans h.flights, h'.queue.trans h.queue,
    fun j hj => (h'.tasks j hj).trans (h.tasks j hj)⟩

theorem findFetch? (h : Agree home id l l') (number : Nat) :
    l'.findFetch? id number = l.findFetch? id number := by
  rw [findFetch?_flights, findFetch?_flights, h.flights]

section Both
variable (h : Agree home id l l')
include h

theorem write (es es' : List Entry) : Agree home id (l.write es) (l'.write es') :=
  ⟨h.names, h.clock, h.world, h.space, h.flights, h.queue, h.tasks⟩

theorem update (space : Nat) (f : Namespace → Namespace) :
    Agree home id (l.update space f) (l'.update space f) :=
  ⟨h.names, h.clock, h.world, by simp only [Loop.update, Service.get?_update, h.space],
    h.flights, h.queue, h.tasks⟩

theorem push (jobs : List Job) : Agree home id (l.push jobs) (l'.push jobs) := by
  refine ⟨h.names, h.clock, h.world, h.space, h.flights, ?_, h.tasks⟩
  have hq := h.queue
  simp only [Loop.queue, Loop.push, List.filter_append] at hq ⊢
  rw [hq]

theorem setTask (task : Nat) (t : Task) :
    Agree home id (l.setTask task t) (l'.setTask task t) :=
  ⟨h.names, h.clock, h.world, h.space, h.flights, h.queue, fun j hj => by
    rw [Loop.setTask, Loop.setTask, Table.get?_insert, Table.get?_insert, h.tasks j hj]⟩

theorem replaceFetch (space number : Nat) {f : Fetch → Fetch}
    (hf : ∀ g, (f g).space = g.space) :
    Agree home id (l.replaceFetch space number f) (l'.replaceFetch space number f) :=
  ⟨h.names, h.clock, h.world, h.space,
    by rw [replaceFetch_flights _ _ _ hf, replaceFetch_flights _ _ _ hf, h.flights],
    h.queue, h.tasks⟩

theorem join (space number task : Nat) :
    Agree home id (l.join space number task) (l'.join space number task) :=
  h.replaceFetch space number fun _ => rfl

theorem removeFetch (space number : Nat) :
    Agree home id (l.removeFetch space number) (l'.removeFetch space number) :=
  ⟨h.names, h.clock, h.world, h.space,
    by rw [removeFetch_flights, removeFetch_flights, h.flights], h.queue, h.tasks⟩

theorem startFetch (space : Nat) (n : Namespace) (b : Bool) :
    Agree home id (l.startFetch space n b) (l'.startFetch space n b) :=
  ⟨h.names, h.clock, h.world, (h.update space Namespace.startFetch).space,
    by rw [startFetch_flights, startFetch_flights, h.flights],
    by rw [startFetch_queue, startFetch_queue, h.queue], h.tasks⟩

end Both

theorem write_self (l : Loop) (es : List Entry) : Agree home id l (l.write es) :=
  ⟨rfl, rfl, rfl, rfl, rfl, rfl, fun _ _ => rfl⟩

theorem update_other {space : Nat} (hs : space ≠ id) (l : Loop) (f : Namespace → Namespace) :
    Agree home id l (l.update space f) :=
  ⟨rfl, rfl, rfl, by rw [Loop.update, Service.get?_update, if_neg hs], rfl, rfl, fun _ _ => rfl⟩

theorem push_other {jobs : List Job} (hj : ∀ job ∈ jobs, job.home home ≠ id) (l : Loop) :
    Agree home id l (l.push jobs) := by
  have hnil : jobs.filter (fun job => job.home home = id) = [] :=
    List.filter_eq_nil_iff.2 fun job hm => by simpa using hj job hm
  refine ⟨rfl, rfl, rfl, rfl, rfl, ?_, fun _ _ => rfl⟩
  rw [Loop.queue, Loop.push, List.filter_append, hnil, List.append_nil]
  rfl

theorem setTask_other {task : Nat} (ht : home task ≠ id) (l : Loop) (t : Task) :
    Agree home id l (l.setTask task t) :=
  ⟨rfl, rfl, rfl, rfl, rfl, rfl, fun j hj => by
    have hne : j ≠ task := fun he => ht (he ▸ hj)
    rw [Loop.setTask, Table.get?_insert, if_neg hne]⟩

theorem replaceFetch_other {space : Nat} (hs : space ≠ id) (l : Loop) (number : Nat)
    {f : Fetch → Fetch} (hf : ∀ g, (f g).space = g.space) :
    Agree home id l (l.replaceFetch space number f) := by
  refine ⟨rfl, rfl, rfl, rfl, ?_, rfl, fun _ _ => rfl⟩
  rw [replaceFetch_flights _ _ _ hf]
  refine (List.map_congr_left fun g hg => ?_).trans (List.map_id _)
  exact if_neg fun hk => hs (hk.1.symm.trans (mem_flights.1 hg).2)

theorem join_other {space : Nat} (hs : space ≠ id) (l : Loop) (number task : Nat) :
    Agree home id l (l.join space number task) :=
  replaceFetch_other hs l number fun _ => rfl

theorem removeFetch_other {space : Nat} (hs : space ≠ id) (l : Loop) (number : Nat) :
    Agree home id l (l.removeFetch space number) := by
  refine ⟨rfl, rfl, rfl, rfl, ?_, rfl, fun _ _ => rfl⟩
  rw [removeFetch_flights]
  refine List.filter_eq_self.2 fun g hg => ?_
  simp [show g.space ≠ space from fun he => hs (he.symm.trans (mem_flights.1 hg).2)]

theorem startFetch_other {space : Nat} (hs : space ≠ id) (l : Loop) (n : Namespace) (b : Bool) :
    Agree home id l (l.startFetch space n b) :=
  have hu : Agree home id l (l.update space Namespace.startFetch) := update_other hs l _
  ⟨rfl, rfl, rfl, hu.space,
    by rw [startFetch_flights, if_neg hs, List.append_nil],
    by rw [startFetch_queue, if_neg hs, List.append_nil], fun _ _ => rfl⟩

section Ask
variable {target : Target}

theorem ask (h : Agree home id l l') (hr : l.Resides target id) (call : Call) :
    Agree home id (l.ask target call).1 (l'.ask target call).1 ∧
      (l'.ask target call).2 = (l.ask target call).2 := by
  simp only [Loop.ask, locate_congr h.names target]
  cases hl : l.locate target with
  | error f => exact ⟨h, rfl⟩
  | ok k =>
    obtain rfl := hr k hl
    simp only [h.space]
    cases l.service.get? k with
    | none => exact ⟨h, rfl⟩
    | some n =>
      simp only [begin, h.clock]
      split
      · exact ⟨h, rfl⟩
      split
      · split <;> exact ⟨h, rfl⟩
      simp only [access, h.clock]
      split
      · split
        · exact ⟨(h.write _ _).startFetch k n true, rfl⟩
        · exact ⟨h, rfl⟩
      · split
        · exact ⟨h, rfl⟩
        · exact ⟨(h.write _ _).startFetch k n false, rfl⟩

theorem ask_other {k : Nat} (hk : k ≠ id) (hr : l.Resides target k) (call : Call) :
    Agree home id l (l.ask target call).1 := by
  obtain ⟨-, ha⟩ | ⟨j, n, notice, hl, -, -, -, -, ha⟩ := l.ask_cases target call
  · rw [ha]
    exact refl l
  · rw [ha, hr j hl]
    exact (write_self l _).trans (startFetch_other hk _ n _)

end Ask

theorem proceed (h : Agree home id l l') {target : Target} (hr : l.Resides target id) (task : Nat)
    (answers : List (Except Fault Answer)) (calls : List Call) :
    Agree home id (l.proceed task target answers calls) (l'.proceed task target answers calls) := by
  induction calls generalizing l l' answers with
  | nil => exact h.setTask task _
  | cons call rest ih =>
    obtain ⟨ha, hreply⟩ := h.ask hr call
    have hn := l.ask_names target call
    rw [Loop.proceed, Loop.proceed]
    cases hask : l.ask target call with
    | mk m reply =>
      cases hask' : l'.ask target call with
      | mk m' reply' =>
        rw [hask, hask'] at ha hreply
        rw [hask] at hn
        obtain rfl : reply' = reply := hreply
        cases reply' with
        | now outcome => exact ih ha (hr.congr hn) _
        | later space number =>
          exact (ha.join space number task).setTask task _

theorem proceed_other {k : Nat} (hk : k ≠ id) {target : Target} (hr : l.Resides target k)
    {task : Nat} (ht : home task ≠ id) (answers : List (Except Fault Answer))
    (calls : List Call) : Agree home id l (l.proceed task target answers calls) := by
  induction calls generalizing l answers with
  | nil => exact setTask_other ht l _
  | cons call rest ih =>
    have ha : Agree home id l (l.ask target call).1 := ask_other hk hr call
    have hn := l.ask_names target call
    rw [Loop.proceed]
    cases hask : l.ask target call with
    | mk m reply =>
      rw [hask] at ha hn
      cases reply with
      | now outcome => exact ha.trans (ih (hr.congr hn) _)
      | later space number =>
        have hs : space ≠ id := by
          rw [hr space (ask_later (congrArg Prod.snd hask))]
          exact hk
        exact ha.trans ((join_other hs m number task).trans (setTask_other ht _ _))

theorem finish (f : Fetch) (h : Agree home f.space l l') (outcome : Except Fault Snapshot) :
    Agree home f.space (l.finish f outcome) (l'.finish f outcome) := by
  have h₁ := (h.removeFetch f.space f.number).update f.space Namespace.endFetch
  unfold Loop.finish
  dsimp only
  cases outcome with
  | ok s =>
    have h₂ := h₁.update f.space fun n =>
      n.store s ((l.removeFetch f.space f.number).update f.space Namespace.endFetch).clock
    dsimp only
    rw [h₁.clock, h₂.space]
    split
    · exact (h₂.write _ _).push _
    · exact h₂.push _
  | error fault =>
    dsimp only
    split
    · rw [h₁.space]
      split
      · exact ((h₁.write _ _).update f.space _).push _
      · exact h₁
    · exact h₁.push _

theorem news_other {k : Nat} (hk : k ≠ id) (waiters : List Nat) (fault : Option Fault) :
    ∀ job ∈ waiters.map (Job.notify · k fault), job.home home ≠ id := by
  intro job hj
  obtain ⟨task, -, rfl⟩ := List.mem_map.1 hj
  exact hk

theorem finish_other {f : Fetch} (hf : f.space ≠ id) (l : Loop) (outcome : Except Fault Snapshot) :
    Agree home id l (l.finish f outcome) := by
  have h₁ : Agree home id l ((l.removeFetch f.space f.number).update f.space Namespace.endFetch) :=
    (removeFetch_other hf l f.number).trans (update_other hf _ _)
  unfold Loop.finish
  dsimp only
  cases outcome with
  | ok s =>
    have h₂ := h₁.trans (update_other hf _ fun n =>
      n.store s ((l.removeFetch f.space f.number).update f.space Namespace.endFetch).clock)
    dsimp only
    split
    · exact (h₂.trans (write_self _ _)).trans (push_other (news_other hf _ _) _)
    · exact h₂.trans (push_other (news_other hf _ _) _)
  | error fault =>
    dsimp only
    split
    · split
      · exact ((h₁.trans (write_self _ _)).trans (update_other hf _ _)).trans
          (push_other (news_other hf _ _) _)
      · exact h₁
    · exact h₁.trans (push_other (news_other hf _ _) _)

theorem runFetch (h : Agree home id l l') (number : Nat) :
    Agree home id (l.runFetch id number) (l'.runFetch id number) := by
  have hf' := h.findFetch? number
  have hn' := h.space
  unfold Loop.runFetch
  rw [hf', hn', h.world]
  split
  next f n hf hn =>
    obtain ⟨-, rfl, rfl⟩ := findFetch?_eq_some hf
    dsimp only
    have hv := (h.write (n.backend.advance l.world f.number f.stage n.storeId).entries
      (n.backend.advance l.world f.number f.stage n.storeId).entries).update f.space fun n' =>
        { n' with backend := (n.backend.advance l.world f.number f.stage n.storeId).value.1 }
    split
    · exact hv.replaceFetch f.space f.number fun _ => rfl
    · exact finish f hv _
  · exact h

theorem runFetch_other {space : Nat} (hs : space ≠ id) (l : Loop) (number : Nat) :
    Agree home id l (l.runFetch space number) := by
  unfold Loop.runFetch
  split
  next f n hf hn =>
    obtain ⟨-, rfl, rfl⟩ := findFetch?_eq_some hf
    have hv : Agree home id l
        (l.visited f.space (n.backend.advance l.world f.number f.stage n.storeId)) :=
      (write_self l _).trans (update_other hs _ _)
    dsimp only
    split
    · exact hv.trans (replaceFetch_other hs _ _ fun _ => rfl)
    · exact hv.trans (finish_other hs _ _)
  · exact refl l

theorem free (h : Agree home id l l') (f : Scripted → Scripted × List Nat) :
    Agree home id (l.free id f) (l'.free id f) := by
  unfold Loop.free
  rw [h.space]
  split
  · exact (h.update id _).push _
  · exact h

theorem free_other {space : Nat} (hs : space ≠ id) (l : Loop)
    (f : Scripted → Scripted × List Nat) : Agree home id l (l.free space f) := by
  unfold Loop.free
  split
  · refine (update_other hs l _).trans (push_other (fun job hj => ?_) _)
    obtain ⟨number, -, rfl⟩ := List.mem_map.1 hj
    exact hs
  · exact refl l

theorem cancel (h : Agree home id l l') {task : Nat} (ht : home task = id) :
    Agree home id (l.cancel task) (l'.cancel task) := by
  unfold Loop.cancel
  rw [h.tasks task ht]
  split
  · split
    · exact h
    · exact h.setTask task _
  · exact h

theorem cancel_other {task : Nat} (ht : home task ≠ id) (l : Loop) :
    Agree home id l (l.cancel task) := by
  unfold Loop.cancel
  split
  · split
    · exact refl l
    · exact setTask_other ht l _
  · exact refl l

theorem begin (h : Agree home id l l') {task : Nat} (ht : home task = id) (target : Target)
    (calls : List Call) : Agree home id (l.apply (.begin task target calls))
      (l'.apply (.begin task target calls)) := by
  rw [apply, apply, Table.contains, Table.contains, h.tasks task ht]
  split
  · exact h
  · exact (h.setTask task _).push _

theorem begin_other {task : Nat} (ht : home task ≠ id) (l : Loop) (target : Target)
    (calls : List Call) : Agree home id l (l.apply (.begin task target calls)) := by
  rw [apply]
  split
  · exact refl l
  · exact (setTask_other ht l _).trans (push_other (by simpa [Job.home] using ht) _)

end Agree

end Loop

end LiveConfig
