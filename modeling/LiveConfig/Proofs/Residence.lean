import LiveConfig.Proofs.Waiting
set_option autoImplicit false

/-!
Tasks at home. When every task asks one namespace alone, it waits for fetches of that one, and what
it is told in the queue is news of them.
-/
namespace LiveConfig

def Job.home (home : Nat → Nat) : Job → Nat
  | .run task => home task
  | .fetch space _ | .notify _ space _ | .resume _ space _ => space

namespace Loop

def Resides (l : Loop) (target : Target) (id : Nat) : Prop := ∀ k, l.locate target = .ok k → k = id

theorem locate_congr {l l' : Loop} (h : l'.service.names = l.service.names) (target : Target) :
    l'.locate target = l.locate target := by
  cases target with
  | space id => rfl
  | only => simp only [locate, Service.only, Service.nameList, h]

theorem Resides.congr {l l' : Loop} {target : Target} {id : Nat} (h : l.Resides target id)
    (hn : l'.service.names = l.service.names) : l'.Resides target id :=
  fun k hk => h k ((locate_congr hn target).symm.trans hk)

theorem access_later {l : Loop} {id : Nat} {n : Namespace} {call : Call} {space number : Nat}
    (h : (l.access id n call).2 = .later space number) : space = id := by
  rw [access] at h
  split at h
  · split at h <;> cases h
  · split at h <;> cases h <;> rfl

/-- The fetch that a call waits for is one of the namespace that it asks. -/
theorem ask_later {l : Loop} {target : Target} {call : Call} {space number : Nat}
    (h : (l.ask target call).2 = .later space number) : l.locate target = .ok space := by
  unfold ask at h
  cases hl : l.locate target with
  | error f => rw [hl] at h; cases h
  | ok id =>
    cases hn : l.service.get? id with
    | none => simp [hl, hn] at h
    | some n =>
      simp only [hl, hn, begin] at h
      split at h
      · cases h
      split at h
      · split at h <;> cases h
        rfl
      · rw [access_later h]

/-- Every task asks the namespace that is its home, and waits for fetches of that one alone. -/
structure Housed (home : Nat → Nat) (l : Loop) : Prop where
  tasks : ∀ j t, l.tasks.get? j = some t → l.Resides t.target (home j)
  waiters : ∀ f ∈ l.fetches, ∀ j ∈ f.waiters, home j = f.space
  news : ∀ job ∈ l.ready, ∀ j, job.waiter? = some j → home j = job.home home

namespace Housed
variable {home : Nat → Nat} {l : Loop}

theorem fresh (hf : l.IsFresh) : Housed home l := by
  refine ⟨fun j t ht => ?_, fun f hm => ?_, fun job hm => ?_⟩
  · rw [hf.tasks] at ht; cases ht
  · rw [hf.fetches] at hm; cases hm
  · rw [hf.ready] at hm; cases hm

theorem setTask (h : Housed home l) {task : Nat} {t : Task}
    (hr : l.Resides t.target (home task)) : Housed home (l.setTask task t) := by
  refine ⟨fun j u hu => ?_, h.waiters, h.news⟩
  rw [Loop.setTask, Table.get?_insert] at hu
  split at hu
  next he => cases hu; exact he ▸ hr
  next => exact h.tasks j u hu

theorem push (h : Housed home l) {jobs : List Job}
    (hj : ∀ job ∈ jobs, ∀ j, job.waiter? = some j → home j = job.home home) :
    Housed home (l.push jobs) :=
  ⟨h.tasks, h.waiters, fun job hm => (List.mem_append.1 hm).elim (h.news job) (hj job)⟩

theorem join (h : Housed home l) {space task : Nat} (ht : home task = space) (number : Nat) :
    Housed home (l.join space number task) := by
  refine ⟨h.tasks, fun f hf j hj => ?_, h.news⟩
  obtain ⟨g, hg, rfl⟩ := List.mem_map.1 hf
  split at hj
  next hk =>
    rw [if_pos hk]
    rcases List.mem_append.1 hj with hj | hj
    · exact h.waiters g hg j hj
    · rw [List.mem_singleton.1 hj, ht, hk.1]
  next hk =>
    rw [if_neg hk]
    exact h.waiters g hg j hj

theorem ask (h : Housed home l) (target : Target) (call : Call) :
    Housed home (l.ask target call).1 := by
  obtain ⟨-, ha⟩ | ⟨id, n, notice, -, -, -, -, -, ha⟩ := l.ask_cases target call
  · rwa [ha]
  · rw [ha]
    refine ⟨h.tasks, fun f hf => ?_, fun job hm => ?_⟩
    · rcases List.mem_append.1 hf with hf | hf
      · exact h.waiters f hf
      · rw [List.mem_singleton.1 hf]
        exact fun _ hj => absurd hj List.not_mem_nil
    · rcases List.mem_append.1 hm with hm | hm
      · exact h.news job hm
      · rw [List.mem_singleton.1 hm]
        exact nofun

theorem proceed (h : Housed home l) {task : Nat} {target : Target}
    (hr : l.Resides target (home task)) (answers : List (Except Fault Answer))
    (calls : List Call) : Housed home (l.proceed task target answers calls) := by
  induction calls generalizing l answers with
  | nil => exact h.setTask hr
  | cons call rest ih =>
    have ha := h.ask target call
    have hr' := hr.congr (l.ask_names target call)
    rw [Loop.proceed]
    cases hask : l.ask target call with
    | mk m reply =>
      rw [hask] at ha hr'
      cases reply with
      | now outcome => exact ih ha hr' _
      | later space number =>
        have ht := hr space (ask_later (congrArg Prod.snd hask))
        exact (ha.join ht.symm number).setTask hr'

theorem runFetch (h : Housed home l) (space number : Nat) :
    Housed home (l.runFetch space number) := by
  cases hf : l.findFetch? space number with
  | none => simpa only [Loop.runFetch, hf] using h
  | some f =>
    cases hn : l.service.get? space with
    | none => simpa only [Loop.runFetch, hf, hn] using h
    | some n =>
      obtain ⟨hmem, rfl, rfl⟩ := findFetch?_eq_some hf
      have htasks := runFetch_tasks hf hn
      have hnames := l.runFetch_names f.space f.number
      refine ⟨fun j t ht => (h.tasks j t (htasks ▸ ht)).congr hnames, ?_, ?_⟩
      · cases hp : (n.backend.advance l.world f.number f.stage n.storeId).value.2 with
        | waits next =>
          rw [runFetch_waits hf hn hp]
          intro g hg j hj
          obtain ⟨g', hg', rfl⟩ := List.mem_map.1 hg
          split at hj
          next hk => rw [if_pos hk]; exact h.waiters g' hg' j hj
          next hk => rw [if_neg hk]; exact h.waiters g' hg' j hj
        | ends outcome =>
          rw [runFetch_ends hf hn hp,
            finish_fetches outcome ((visited_get? hn _ _).trans (if_pos rfl))]
          exact fun g hg => h.waiters g (List.mem_filter.1 hg).1
      · cases hp : (n.backend.advance l.world f.number f.stage n.storeId).value.2 with
        | waits next =>
          rw [runFetch_waits hf hn hp]
          exact h.news
        | ends outcome =>
          rw [runFetch_ends hf hn hp,
            finish_ready outcome ((visited_get? hn _ _).trans (if_pos rfl))]
          intro job hm j hj
          rcases List.mem_append.1 hm with hm | hm
          · exact h.news job hm j hj
          · obtain ⟨task, ht, rfl⟩ := List.mem_map.1 hm
            cases hj
            exact h.waiters f hmem _ ht

theorem perform (h : Housed home l) {job : Job}
    (hj : ∀ j, job.waiter? = some j → home j = job.home home) : Housed home (l.perform job) := by
  have hstretch : ∀ s, l.stretch? job = some s →
      Housed home (l.proceed s.task s.target s.answers s.calls) := by
    intro s hs
    obtain ⟨t, -, ht, -, he⟩ | ⟨_, _, t, _, _, _, -, ht, -, -, -, he⟩ := stretch?_cases hs
    · exact h.proceed (by rw [he]; exact h.tasks _ t ht) _ _
    · exact h.proceed (by rw [he]; exact h.tasks _ t ht) _ _
  cases job with
  | run task =>
    rw [Loop.perform, runTask_eq]
    split
    next s hs => exact hstretch s hs
    next => exact h
  | resume task space fault =>
    rw [Loop.perform, resumeTask_eq]
    split
    next s hs => exact hstretch s hs
    next => exact h
  | notify task space fault =>
    refine h.push fun job hm j hw => ?_
    cases List.mem_singleton.1 hm
    cases hw
    exact hj task rfl
  | fetch space number => exact h.runFetch space number

theorem cancel (h : Housed home l) (task : Nat) : Housed home (l.cancel task) := by
  unfold Loop.cancel
  split
  next t ht =>
    split
    · exact h
    · exact h.setTask (h.tasks task t ht)
  next => exact h

theorem free (h : Housed home l) (space : Nat) (f : Scripted → Scripted × List Nat) :
    Housed home (l.free space f) := by
  unfold Loop.free
  split
  · refine ⟨h.tasks, h.waiters, fun job hm => ?_⟩
    rcases List.mem_append.1 hm with hm | hm
    · exact h.news job hm
    · obtain ⟨number, -, rfl⟩ := List.mem_map.1 hm
      exact nofun
  · exact h

theorem apply (h : Housed home l) {e : Event}
    (hb : ∀ task target calls, e = .begin task target calls → l.Resides target (home task)) :
    Housed home (l.apply e) := by
  cases e with
  | begin task target calls =>
    rw [Loop.apply]
    split
    · exact h
    · refine (h.setTask (hb task target calls rfl)).push fun job hm => ?_
      cases List.mem_singleton.1 hm
      intro j hj
      cases hj
  | cancel task => exact h.cancel task
  | release space => exact h.free space _
  | wake space => exact h.free space _
  | _ => exact ⟨h.tasks, h.waiters, h.news⟩

theorem dequeue (h : Housed home l) : Housed home l.dequeue :=
  ⟨h.tasks, h.waiters, fun job hm => h.news job (List.mem_of_mem_tail hm)⟩

theorem move (h : Housed home l) {m : Move}
    (hb : ∀ task target calls, m = .event (.begin task target calls) →
      l.Resides target (home task)) : Housed home (l.move m) := by
  cases m with
  | event e => exact h.apply fun task target calls he => hb task target calls (he ▸ rfl)
  | turn =>
    cases hr : l.ready with
    | nil =>
      rw [Loop.move, step, hr]
      exact h
    | cons job rest =>
      rw [show l.move .turn = l.dequeue.perform job from step_of_ready hr]
      exact h.dequeue.perform (h.news job (hr ▸ List.mem_cons_self))

end Housed

end Loop

end LiveConfig
