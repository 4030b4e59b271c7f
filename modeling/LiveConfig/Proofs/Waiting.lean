import LiveConfig.Proofs.Queue
set_option autoImplicit false

/-!
Who waits. A task that waits for a fetch stands in one place: with the fetch, or in the one job that
brings it the news of its end.
-/
namespace LiveConfig

def Job.waiter? : Job → Option Nat
  | .notify task _ _ | .resume task _ _ => some task
  | .run _ | .fetch _ _ => none

namespace Loop

def waiters (l : Loop) : List Nat :=
  l.fetches.flatMap Fetch.waiters ++ l.ready.filterMap Job.waiter?

/-- No task waits twice, and none that waits can go on in another way. -/
structure Orderly (l : Loop) : Prop where
  once : l.waiters.Nodup
  known : ∀ task ∈ l.waiters, ∃ t, l.tasks.get? task = some t ∧
    (t.state = .waiting ∨ t.state = .cancelled)

theorem ask_waiters (l : Loop) (target : Target) (call : Call) :
    (l.ask target call).1.waiters = l.waiters := by
  obtain ⟨-, ha⟩ | ⟨id, n, notice, -, -, -, -, -, ha⟩ := l.ask_cases target call
  · rw [ha]
  · rw [ha]
    simp [waiters, startFetch, update, say, write, Job.waiter?]

theorem waiters_dequeue {l : Loop} {job : Job} {rest : List Job} (hr : l.ready = job :: rest) :
    l.waiters.Perm (job.waiter?.toList ++ l.dequeue.waiters) := by
  refine List.perm_iff_count.2 fun t => ?_
  rw [waiters, waiters, dequeue, hr]
  cases hj : job.waiter? <;>
    simp only [hj, List.filterMap_cons, List.count_append, List.count_cons, Option.toList_none,
      Option.toList_some, List.count_nil, List.tail_cons] <;> omega

section Split
variable {l : Loop} {f : Fetch} {pre post : List Fetch}

theorem Coherent.split (h : Coherent l) (hf : f ∈ l.fetches) : ∃ pre post,
    l.fetches = pre ++ f :: post ∧ ∀ g ∈ pre ++ post, g.space ≠ f.space := by
  have hs := h.flights_eq_singleton (mem_flights.2 ⟨hf, rfl⟩)
  rw [flights, List.filter_eq_cons_iff] at hs
  obtain ⟨pre, post, he, hpre, -, hpost⟩ := hs
  refine ⟨pre, post, he, fun g hg => ?_⟩
  rcases List.mem_append.1 hg with hg | hg
  · simpa using hpre g hg
  · simpa using List.filter_eq_nil_iff.1 hpost g hg

theorem replaceFetch_split (hl : l.fetches = pre ++ f :: post)
    (hne : ∀ g ∈ pre ++ post, g.space ≠ f.space) (change : Fetch → Fetch) :
    (l.replaceFetch f.space f.number change).fetches = pre ++ change f :: post := by
  have hid : ∀ gs : List Fetch, (∀ g ∈ gs, g.space ≠ f.space) →
      gs.map (fun g => if g.space = f.space ∧ g.number = f.number then change g else g) = gs := by
    intro gs hgs
    refine (List.map_congr_left fun g hg => ?_).trans (List.map_id gs)
    exact if_neg fun hk => hgs g hg hk.1
  rw [replaceFetch, hl, List.map_append, List.map_cons,
    hid pre fun g hg => hne g (List.mem_append_left _ hg),
    hid post fun g hg => hne g (List.mem_append_right _ hg), if_pos ⟨rfl, rfl⟩]

theorem removeFetch_split (hl : l.fetches = pre ++ f :: post)
    (hne : ∀ g ∈ pre ++ post, g.space ≠ f.space) :
    (l.removeFetch f.space f.number).fetches = pre ++ post := by
  have hid : ∀ gs : List Fetch, (∀ g ∈ gs, g.space ≠ f.space) →
      gs.filter (fun g => ¬(g.space = f.space ∧ g.number = f.number)) = gs := by
    intro gs hgs
    refine List.filter_eq_self.2 fun g hg => ?_
    simp [hgs g hg]
  rw [removeFetch, hl, List.filter_append, List.filter_cons,
    hid pre fun g hg => hne g (List.mem_append_left _ hg),
    hid post fun g hg => hne g (List.mem_append_right _ hg)]
  simp

end Split

theorem Coherent.join_waiters {l : Loop} (h : Coherent l) (space number task : Nat) :
    (l.join space number task).waiters.Perm (task :: l.waiters) ∨
      (l.join space number task).waiters = l.waiters := by
  by_cases hf : ∃ f ∈ l.fetches, f.space = space ∧ f.number = number
  · obtain ⟨f, hf, rfl, rfl⟩ := hf
    obtain ⟨pre, post, hl, hne⟩ := h.split hf
    left
    refine List.perm_iff_count.2 fun t => ?_
    rw [join, waiters, replaceFetch_split hl hne, waiters, hl]
    simp only [List.flatMap_append, List.flatMap_cons, List.count_append, List.count_cons,
      List.count_nil, replaceFetch]
    omega
  · right
    have hid : (l.join space number task).fetches = l.fetches := by
      refine (List.map_congr_left fun g hg => ?_).trans (List.map_id _)
      exact if_neg fun hk => hf ⟨g, hg, hk⟩
    rw [waiters, hid]
    rfl

section RunFetch
variable {l : Loop} {f : Fetch} {n : Namespace}

theorem runFetch_waiters (h : Coherent l) (hf : l.findFetch? f.space f.number = some f)
    (hn : l.service.get? f.space = some n) :
    (l.runFetch f.space f.number).waiters.Perm l.waiters := by
  obtain ⟨pre, post, hl, hne⟩ := h.split (findFetch?_eq_some hf).1
  refine List.perm_iff_count.2 fun t => ?_
  cases hp : (n.backend.advance l.world f.number f.stage n.storeId).value.2 with
  | waits next =>
    rw [runFetch_waits hf hn hp, waiters, replaceFetch_split (l := l.visited _ _) hl hne, waiters,
      hl]
    simp [replaceFetch, visited, update, write]
  | ends outcome =>
    have hg := (visited_get? hn (n.backend.advance l.world f.number f.stage n.storeId)
      f.space).trans (if_pos rfl)
    have hj : (f.waiters.map (Job.notify · f.space (f.news outcome))).filterMap Job.waiter? =
        f.waiters := by
      rw [List.filterMap_map]
      exact List.filterMap_some
    rw [runFetch_ends hf hn hp, waiters, finish_fetches outcome hg, finish_ready outcome hg,
      removeFetch_split (l := l.visited _ _) hl hne, List.filterMap_append, hj, waiters, hl]
    simp only [List.flatMap_append, List.flatMap_cons, List.count_append, visited, update, write]
    omega

end RunFetch

namespace Orderly
variable {l : Loop}

theorem of_perm {l' : Loop} (h : Orderly l) (hp : l'.waiters.Perm l.waiters)
    (ht : l'.tasks = l.tasks) : Orderly l' :=
  ⟨hp.nodup_iff.2 h.once, fun task hm => ht ▸ h.known task (hp.mem_iff.1 hm)⟩

theorem fresh (hf : l.IsFresh) : Orderly l := by
  have hnil : l.waiters = [] := by rw [waiters, hf.fetches, hf.ready]; rfl
  exact ⟨hnil ▸ List.nodup_nil, fun task hm => by rw [hnil] at hm; cases hm⟩

theorem proceed (h : Orderly l) (hc : Coherent l) {task : Nat} (hw : task ∉ l.waiters)
    (target : Target) (answers : List (Except Fault Answer)) (calls : List Call) :
    Orderly (l.proceed task target answers calls) := by
  -- The record of a task that does not wait can be written without harm to those that do.
  have hknown : ∀ (l : Loop) (t : Task), Orderly l → task ∉ l.waiters →
      ∀ j ∈ l.waiters, ∃ t', (l.setTask task t).tasks.get? j = some t' ∧
        (t'.state = .waiting ∨ t'.state = .cancelled) := by
    intro l t h hw j hj
    have hne : j ≠ task := fun he => hw (he ▸ hj)
    obtain ⟨t', ht', hs⟩ := h.known j hj
    exact ⟨t', (Table.get?_insert ..).trans ((if_neg hne).trans ht'), hs⟩
  induction calls generalizing l answers with
  | nil => exact ⟨h.once, hknown l _ h hw⟩
  | cons call rest ih =>
    have hask := l.ask_waiters target call
    have h' : Orderly (l.ask target call).1 :=
      h.of_perm (by rw [hask]) (l.ask_tasks target call)
    have hc' := hc.ask target call
    have hw' : task ∉ (l.ask target call).1.waiters := by rwa [hask]
    rw [Loop.proceed]
    split
    next l' outcome ha => rw [ha] at h' hc' hw'; exact ih h' hc' hw' _
    next l' space number ha =>
      rw [ha] at h' hc' hw'
      rcases hc'.join_waiters space number task with hp | he
      · refine ⟨hp.nodup_iff.2 (List.nodup_cons.2 ⟨hw', h'.once⟩), fun j hj => ?_⟩
        rcases List.mem_cons.1 (hp.mem_iff.1 hj) with rfl | hj
        · exact ⟨_, (Table.get?_insert ..).trans (if_pos rfl), .inl rfl⟩
        · exact hknown l' _ h' hw' j hj
      · have hj : Orderly (l'.join space number task) := h'.of_perm (by rw [he]) rfl
        exact ⟨hj.once, hknown _ _ hj (by rwa [he])⟩

theorem apply (h : Orderly l) (e : Event) : Orderly (l.apply e) := by
  have hw : (l.apply e).waiters = l.waiters := by
    have hfree : ∀ space f, (l.free space f).waiters = l.waiters := fun space f => by
      unfold free
      split
      · have hj : ∀ ks : List Nat,
            (ks.map (Job.fetch space ·)).filterMap Job.waiter? = [] := fun ks => by
          rw [List.filterMap_map]
          exact List.filterMap_eq_nil_iff.2 fun _ _ => rfl
        simp [waiters, push, update, hj]
      · rfl
    cases e with
    | begin task target calls =>
      rw [Loop.apply]
      split
      · rfl
      · simp [waiters, push, setTask, Job.waiter?]
    | cancel task =>
      rw [Loop.apply, cancel]
      split
      · split <;> rfl
      · rfl
    | release space => exact hfree space _
    | wake space => exact hfree space _
    | _ => rfl
  refine ⟨hw ▸ h.once, fun task hm => ?_⟩
  obtain ⟨t, ht, hs⟩ := h.known task (hw ▸ hm)
  rcases apply_task (e := e) ht with ht' | ⟨-, ht'⟩
  · exact ⟨t, ht', hs⟩
  · exact ⟨_, ht', .inr rfl⟩

theorem dequeue (h : Orderly l) {job : Job} {rest : List Job} (hr : l.ready = job :: rest) :
    Orderly l.dequeue ∧ ∀ task, job.waiter? = some task → task ∉ l.dequeue.waiters := by
  have hw := waiters_dequeue hr
  have hone := List.nodup_append.1 (hw.nodup_iff.1 h.once)
  refine ⟨⟨hone.2.1, fun j hj => h.known j (hw.mem_iff.2 (List.mem_append_right _ hj))⟩,
    fun task ht hm => ?_⟩
  rw [ht] at hone
  exact hone.2.2 task (List.mem_singleton.2 rfl) task hm rfl

theorem pass (h : Orderly l) {l' : Loop} (hf : l'.fetches = l.fetches) (ht : l'.tasks = l.tasks)
    (hr : l'.ready = l.ready.tail ++ l.ready.head?.toList.flatMap Job.sequel) : Orderly l' := by
  cases hq : l.ready with
  | nil => exact h.of_perm (by rw [waiters, hf, hr, hq, waiters, hq]; rfl) ht
  | cons job rest =>
    have hw : l'.waiters.Perm (job.sequel.filterMap Job.waiter? ++ l.dequeue.waiters) := by
      refine List.perm_iff_count.2 fun t => ?_
      rw [waiters, hf, hr, hq, waiters, Loop.dequeue, hq]
      simp only [List.tail_cons, List.head?_cons, Option.toList_some, List.flatMap_singleton,
        List.filterMap_append, List.count_append]
      omega
    cases job with
    | notify task space fault => exact h.of_perm (hw.trans (waiters_dequeue hq).symm) ht
    | _ => exact (h.dequeue hq).1.of_perm hw ht

theorem move (h : Orderly l) (hc : Coherent l) (m : Move) : Orderly (l.move m) := by
  have hd : Coherent l.dequeue := hc.quiet (.of_eq rfl rfl)
  cases l.course m with
  | task job rest s turn ready stretch move =>
    obtain ⟨ho, hfree⟩ := h.dequeue ready
    rw [move]
    refine ho.proceed hd (fun hm => ?_) _ _ _
    obtain ⟨t, rfl, ht, hs, -⟩ | ⟨space, fault, t, n, call, calls, rfl, -⟩ := stretch?_cases stretch
    · obtain ⟨t', ht', hs'⟩ := ho.known s.task hm
      cases ht.symm.trans ht'
      rw [hs] at hs'
      rcases hs' with hs' | hs' <;> cases hs'
    · exact hfree s.task rfl hm
  | fetch v n rest turn ready found space progress clock move =>
    rw [move]
    exact (h.dequeue ready).1.of_perm (runFetch_waiters hd found space)
      (runFetch_tasks (l := l.dequeue) found space)
  | quiet move asked visit fetches turn =>
    cases m with
    | turn => exact h.pass fetches (turn rfl).2.1 (turn rfl).2.2
    | event e => exact h.apply e

theorem run (h : Orderly l) (hc : Coherent l) (ms : List Move) : Orderly (l.run ms) := by
  have hr : Coherent (l.run ms) ∧ Orderly (l.run ms) :=
    run_keeps (P := fun l => Coherent l ∧ Orderly l)
      (fun _ m h => ⟨h.1.move m, h.2.move h.1 m⟩) ⟨hc, h⟩ ms
  exact hr.2

end Orderly

end Loop

end LiveConfig
