import LiveConfig.Proofs.Waiting
set_option autoImplicit false

/-!
How the end of a fetch comes to those who wait for it. Each of them waits with the fetch, then for
two turns of its own in the queue; nothing else lets it go on.
-/
namespace LiveConfig.Loop

structure UnderWay (l : Loop) (task index : Nat) (call : Call) (t : Task) : Prop where
  task : l.tasks.get? task = some t
  index : t.answers.length = index
  call : ∃ rest, t.calls = call :: rest
  state : t.state = .waiting ∨ t.state = .cancelled

def Dropped (task index : Nat) (call : Call) (l : Loop) : Prop :=
  ∃ t, UnderWay l task index call t ∧ t.state = .cancelled

structure Waits (l : Loop) (task index : Nat) (call : Call) (f : Fetch) : Prop where
  underWay : ∃ t, UnderWay l task index call t
  fetch : f ∈ l.fetches
  waiter : task ∈ f.waiters

/-- A call is brought the news of the end of a fetch by the job at this place of the queue. -/
structure Due (l : Loop) (task index : Nat) (call : Call) (job : Job) (i : Nat) : Prop where
  underWay : ∃ t, UnderWay l task index call t
  job : l.ready[i]? = some job

theorem UnderWay.answer?_eq_none {l : Loop} {task index : Nat} {call : Call} {t : Task}
    (h : UnderWay l task index call t) : l.answer? task index = none := by
  rw [answer?, h.task, Option.bind_some, List.getElem?_eq_none_iff]
  exact Nat.le_of_eq h.index

section Move
variable {l : Loop} {task index : Nat} {call : Call}

theorem UnderWay.move {t : Task} (h : UnderWay l task index call t) (m : Move)
    (hs : ∀ job rest s, m = .turn → l.ready = job :: rest → l.stretch? job = some s →
      s.task ≠ task) :
    ∃ t', UnderWay (l.move m) task index call t' ∧
      (t.state = .cancelled → t'.state = .cancelled) := by
  obtain ht | ⟨-, ht⟩ | ⟨job, rest, s, hm, hr, hst, he, -⟩ := move_task (m := m) h.task
  · exact ⟨t, ⟨ht, h.index, h.call, h.state⟩, id⟩
  · exact ⟨_, ⟨ht, h.index, h.call, .inr rfl⟩, fun _ => rfl⟩
  · exact absurd he (hs job rest s hm hr hst)

theorem UnderWay.resumes {t : Task} (h : UnderWay l task index call t) {job : Job} {s : Stretch}
    (hs : l.stretch? job = some s) (he : s.task = task) :
    ∃ space fault n rest, job = .resume task space fault ∧ t.state = .waiting ∧
      l.service.get? space = some n ∧
      s = ⟨task, t.target, t.answers ++ [conclude n call fault], rest⟩ := by
  subst he
  obtain ⟨t', -, ht', hst, -⟩ | ⟨space, fault, t', n, call', rest, hj, ht', hst, hn, hc, hs'⟩ :=
    stretch?_cases hs
  · cases h.task.symm.trans ht'
    rcases h.state with hw | hw <;> cases hst.symm.trans hw
  · cases h.task.symm.trans ht'
    obtain ⟨rest', hc'⟩ := h.call
    cases hc.symm.trans hc'
    exact ⟨space, fault, n, rest, hj, hst, hn, hs'⟩

theorem Dropped.move (h : Dropped task index call l) (m : Move) :
    Dropped task index call (l.move m) := by
  obtain ⟨t, ht, hc⟩ := h
  obtain ⟨t', ht', hc'⟩ := ht.move m fun job rest s _ _ hs he => by
    obtain ⟨space, fault, n, calls, -, hw, -⟩ := ht.resumes hs he
    cases hc.symm.trans hw
  exact ⟨t', ht', hc' hc⟩

theorem Dropped.run (h : Dropped task index call l) (ms : List Move) :
    Dropped task index call (l.run ms) := run_keeps (fun _ m h => h.move m) h ms

theorem proceed_flight {f : Fetch} (hf : f ∈ l.fetches) (j : Nat) (target : Target)
    (answers : List (Except Fault Answer)) (calls : List Call) :
    ∃ f' ∈ (l.proceed j target answers calls).fetches, f'.key = f.key ∧ f.waiters ⊆ f'.waiters := by
  refine proceed_keeps (P := fun l' => ∃ f' ∈ l'.fetches, f'.key = f.key ∧ f.waiters ⊆ f'.waiters)
    ?_ ?_ (fun _ _ h => h) ⟨f, hf, rfl, List.Subset.refl _⟩ target answers calls
  · rintro l' target call ⟨f', hf', h⟩
    exact ⟨f', by rw [ask_fetches]; exact List.mem_append_left _ hf', h⟩
  · rintro l' space number ⟨f', hf', hk, hw⟩
    refine ⟨_, List.mem_map_of_mem hf', ?_, ?_⟩
    · rw [← hk]
      split <;> rfl
    · split
      · exact fun x hx => List.mem_append_left _ (hw hx)
      · exact hw

/-- A fetch goes on with all who wait for it, or ends and sends them the news. -/
theorem Coherent.flight_move (hc : Coherent l) {f : Fetch} (hf : f ∈ l.fetches) (m : Move) :
    (l.landing? f.space m = none ∧
        ∃ f' ∈ (l.move m).fetches, f'.key = f.key ∧ f.waiters ⊆ f'.waiters) ∨
      ∃ x, l.landing? f.space m = some x ∧ x.fetch = f ∧
        ∀ j ∈ f.waiters, Job.notify j f.space (f.news x.outcome) ∈ (l.move m).ready := by
  cases l.course m with
  | task job rest s turn ready stretch move asked visit =>
    left
    rw [move]
    exact ⟨landing?_of_none visit _, proceed_flight (l := l.dequeue) hf ..⟩
  | fetch v n rest turn ready found space progress clock move asked visit =>
    have hd : Coherent l.dequeue := hc.quiet (.of_eq rfl rfl)
    by_cases hs : v.fetch.space = f.space
    · have hv := hc.eq_of_space hf (findFetch?_eq_some found).1 hs
      have hfl := hd.runFetch_flights (f := v.fetch) found space v.fetch.space
      rw [if_pos rfl] at hfl
      have hp' : (n.backend.advance l.dequeue.world v.fetch.number v.fetch.stage
        n.storeId).value.2 = v.progress := progress
      rw [hp'] at hfl
      cases hp : v.progress with
      | waits next =>
        left
        refine ⟨landing?_of_waits visit hp _, { f with stage := next }, ?_, rfl, List.Subset.refl _⟩
        rw [hp, Fetch.turn, hv] at hfl
        rw [move, hv]
        exact (mem_flights.1 (hfl ▸ List.mem_singleton.2 rfl)).1
      | ends outcome =>
        right
        refine ⟨_, hs ▸ landing?_of_ends visit hp, hv, fun j hj => ?_⟩
        have hg := (visited_get? (l := l.dequeue) space
          (n.backend.advance l.dequeue.world v.fetch.number v.fetch.stage n.storeId)
          v.fetch.space).trans (if_pos rfl)
        rw [hp] at hp'
        rw [move, runFetch_ends (l := l.dequeue) found space hp', finish_ready outcome hg, hv]
        exact List.mem_append_right _ (List.mem_map_of_mem hj)
    · left
      refine ⟨landing?_of_ne visit hs, f, ?_, rfl, List.Subset.refl _⟩
      have hfl := hd.runFetch_flights (f := v.fetch) found space f.space
      rw [if_neg hs] at hfl
      rw [move]
      exact (mem_flights.1 (hfl ▸ mem_flights.2 ⟨hf, rfl⟩)).1
  | quiet move asked visit fetches turn =>
    left
    exact ⟨landing?_of_none visit _, f, by rw [fetches]; exact hf, rfl, List.Subset.refl _⟩

/-- A task that waits for a fetch does not go on. -/
theorem Waits.held {f : Fetch} (h : Waits l task index call f) (ho : Orderly l) {job : Job}
    {rest : List Job} {s : Stretch} (hr : l.ready = job :: rest) (hs : l.stretch? job = some s) :
    s.task ≠ task := by
  intro he
  obtain ⟨t, ht⟩ := h.underWay
  obtain ⟨space, fault, n, calls, rfl, -⟩ := ht.resumes hs he
  -- A task that is told of one fetch would wait for another.
  refine (ho.dequeue hr).2 task rfl (List.mem_append_left _ ?_)
  exact List.mem_flatMap.2 ⟨f, h.fetch, h.waiter⟩

theorem Waits.move {f : Fetch} (h : Waits l task index call f) (hc : Coherent l) (ho : Orderly l)
    (m : Move) :
    (l.landing? f.space m = none ∧
        ∃ f', f'.key = f.key ∧ Waits (l.move m) task index call f') ∨
      ∃ x i, l.landing? f.space m = some x ∧ x.fetch = f ∧
        Due (l.move m) task index call (.notify task f.space (f.news x.outcome)) i := by
  obtain ⟨t, ht⟩ := h.underWay
  obtain ⟨t', ht', -⟩ := ht.move m fun _ _ _ _ hr hs => h.held ho hr hs
  obtain ⟨hx, f', hf', hk, hw⟩ | ⟨x, hx, hf, hj⟩ := hc.flight_move h.fetch m
  · exact .inl ⟨hx, f', hk, ⟨t', ht'⟩, hf', hw h.waiter⟩
  · obtain ⟨i, hi⟩ := List.mem_iff_getElem?.1 (hj task h.waiter)
    exact .inr ⟨x, i, hx, hf, ⟨t', ht'⟩, hi⟩

end Move

section News
variable {l : Loop} {task index space : Nat} {call : Call} {fault : Option Fault}

/-- The news keep their place in the queue until it is their turn. -/
theorem Due.move {job : Job} {i : Nat} (h : Due l task index call job i)
    (hj : job.waiter? = some task) (ho : Orderly l) (m : Move) (hm : m = .turn → i ≠ 0) :
    ∃ i', Due (l.move m) task index call job i' ∧ i = i' + turns [m] := by
  obtain ⟨t, ht⟩ := h.underWay
  obtain ⟨t', ht', -⟩ := ht.move m fun job' rest s hturn hr hs he => by
    obtain ⟨space, fault, n, calls, rfl, -⟩ := ht.resumes hs he
    -- The task would be told twice, by the first job and by this one behind it.
    refine (ho.dequeue hr).2 task rfl (List.mem_append_right _ ?_)
    have hjob := h.job
    cases i with
    | zero => exact absurd rfl (hm hturn)
    | succ i =>
      rw [hr, List.getElem?_cons_succ] at hjob
      rw [dequeue, hr]
      exact List.mem_filterMap.2 ⟨job, List.mem_of_getElem? hjob, hj⟩
  have hr := l.move_ready m
  cases m with
  | event e => exact ⟨i, ⟨⟨t', ht'⟩, getElem?_longer hr h.job⟩, rfl⟩
  | turn =>
    cases i with
    | zero => exact absurd rfl (hm rfl)
    | succ i =>
      refine ⟨i, ⟨⟨t', ht'⟩, getElem?_longer hr ?_⟩, rfl⟩
      rw [behind, List.getElem?_tail]
      exact h.job

theorem Due.notified (h : Due l task index call (.notify task space fault) 0) :
    ∃ i, Due (l.move .turn) task index call (.resume task space fault) i := by
  obtain ⟨t, ht⟩ := h.underWay
  cases hr : l.ready with
  | nil => have hj := h.job; rw [hr] at hj; cases hj
  | cons job rest =>
    have hj := h.job
    rw [hr] at hj
    cases hj
    obtain ⟨t', ht', -⟩ := ht.move .turn fun job rest' s _ hr' hs _ => by
      cases hr.symm.trans hr'
      cases hs
    have hmem : Job.resume task space fault ∈ (l.move .turn).ready := by
      rw [show l.move .turn = l.dequeue.perform _ from step_of_ready hr]
      exact List.mem_append_right _ (List.mem_singleton.2 rfl)
    obtain ⟨i, hi⟩ := List.mem_iff_getElem?.1 hmem
    exact ⟨i, ⟨t', ht'⟩, hi⟩

theorem Due.resumed (h : Due l task index call (.resume task space fault) 0) {n : Namespace}
    (hn : l.service.get? space = some n) : Dropped task index call (l.move .turn) ∨
      (l.move .turn).answer? task index = some (conclude n call fault) := by
  obtain ⟨t, ht⟩ := h.underWay
  cases hr : l.ready with
  | nil => have hj := h.job; rw [hr] at hj; cases hj
  | cons job rest =>
    have hj := h.job
    rw [hr] at hj
    cases hj
    rcases ht.state with hw | hc
    · right
      obtain ⟨calls, hcalls⟩ := ht.call
      have hs : l.stretch? (.resume task space fault) =
          some ⟨task, t.target, t.answers ++ [conclude n call fault], calls⟩ := by
        simp [stretch?, ht.task, hn, hw, hcalls]
      rw [move_of_stretch hr hs]
      refine proceed_answer? ?_
      rw [← ht.index, List.getElem?_concat_length]
    · exact .inl (Dropped.move ⟨t, ht, hc⟩ .turn)

variable (task index space call fault) in
def Resumes (l : Loop) (ms : List Move) : Prop :=
  ∃ ms₁ ms₂ n, ms = ms₁ ++ .turn :: ms₂ ∧ (l.run ms₁).service.get? space = some n ∧
    (l.run ms₁).answer? task index = none ∧
    ((l.run ms₁).move .turn).answer? task index = some (conclude n call fault)

theorem Resumes.append {ms₁ ms₂ : List Move}
    (h : Resumes task index space call fault (l.run ms₁) ms₂) :
    Resumes task index space call fault l (ms₁ ++ ms₂) := by
  obtain ⟨as, bs, n, rfl, hn, hnone, ha⟩ := h
  refine ⟨ms₁ ++ as, bs, n, by simp, ?_, ?_, ?_⟩
  all_goals rwa [run_append]

theorem Resumes.answer? {ms : List Move} (h : Resumes task index space call fault l ms) :
    ∃ o, (l.run ms).answer? task index = some o := by
  obtain ⟨ms₁, ms₂, n, rfl, -, -, ha⟩ := h
  rw [run_append, run_cons]
  exact ⟨_, run_answer? ms₂ ha⟩

/-- The news move up by a place with each turn, until it is their turn. -/
theorem Due.run {job : Job} {i : Nat} (h : Due l task index call job i)
    (hj : job.waiter? = some task) (hc : Coherent l) (ho : Orderly l) (ms : List Move) :
    (∃ i', Due (l.run ms) task index call job i' ∧ i = i' + turns ms) ∨
      ∃ ms₁ ms₂, ms = ms₁ ++ .turn :: ms₂ ∧ Due (l.run ms₁) task index call job 0 := by
  induction ms generalizing l i with
  | nil => exact .inl ⟨i, h, rfl⟩
  | cons m ms ih =>
    by_cases hm : m = .turn → i ≠ 0
    · obtain ⟨i', h', hi⟩ := h.move hj ho m hm
      have hturns := turns_cons m ms
      obtain ⟨k, hk, hik⟩ | ⟨ms₁, ms₂, rfl, hd⟩ := ih h' (hc.move m) (ho.move hc m)
      · exact .inl ⟨k, hk, by omega⟩
      · exact .inr ⟨m :: ms₁, ms₂, rfl, hd⟩
    · simp only [Classical.not_imp, ne_eq, Classical.not_not] at hm
      obtain ⟨rfl, rfl⟩ := hm
      exact .inr ⟨[], ms, rfl, h⟩

theorem Due.run_resume {i : Nat} (h : Due l task index call (.resume task space fault) i)
    (hc : Coherent l) (ho : Orderly l) (hn : (l.service.get? space).isSome) (ms : List Move) :
    (∃ i', Due (l.run ms) task index call (.resume task space fault) i' ∧ i = i' + turns ms) ∨
      Dropped task index call (l.run ms) ∨ Resumes task index space call fault l ms := by
  obtain h | ⟨ms₁, ms₂, rfl, hd⟩ := h.run rfl hc ho ms
  · exact .inl h
  · right
    have hsome : ((l.run ms₁).service.get? space).isSome := by rw [run_isSome, hn]
    obtain ⟨n, hsp⟩ := Option.isSome_iff_exists.1 hsome
    obtain ⟨t, ht⟩ := hd.underWay
    rcases hd.resumed hsp with hd | ha
    · rw [run_append]
      exact .inl (hd.run ms₂)
    · exact .inr ⟨ms₁, ms₂, n, rfl, hsp, ht.answer?_eq_none, ha⟩

theorem Due.run_notify {i : Nat} (h : Due l task index call (.notify task space fault) i)
    (hc : Coherent l) (ho : Orderly l) (hn : (l.service.get? space).isSome) (ms : List Move) :
    (∃ i', Due (l.run ms) task index call (.notify task space fault) i' ∧ i = i' + turns ms) ∨
      (∃ i', Due (l.run ms) task index call (.resume task space fault) i') ∨
      Dropped task index call (l.run ms) ∨ Resumes task index space call fault l ms := by
  obtain h | ⟨ms₁, ms₂, rfl, hd⟩ := h.run rfl hc ho ms
  · exact .inl h
  · right
    have hc' : Coherent (l.run (ms₁ ++ [.turn])) := hc.run _
    have ho' : Orderly (l.run (ms₁ ++ [.turn])) := ho.run hc _
    have hsome : ((l.run (ms₁ ++ [.turn])).service.get? space).isSome := by rw [run_isSome, hn]
    obtain ⟨k, hk⟩ := hd.notified
    rw [← run_concat] at hk
    rw [show ms₁ ++ .turn :: ms₂ = (ms₁ ++ [.turn]) ++ ms₂ by simp]
    obtain ⟨i', hi', -⟩ | hd | hr := hk.run_resume hc' ho' hsome ms₂
    · exact .inl ⟨i', by rw [run_append]; exact hi'⟩
    · exact .inr (.inl (by rw [run_append]; exact hd))
    · exact .inr (.inr hr.append)

variable (task index space call fault) in
def Coming (l : Loop) : Prop :=
  ∃ i, Due l task index call (.notify task space fault) i ∨
    Due l task index call (.resume task space fault) i

theorem Coming.run (h : Coming task index space call fault l) (hc : Coherent l) (ho : Orderly l)
    (hn : (l.service.get? space).isSome) (ms : List Move) :
    Coming task index space call fault (l.run ms) ∨ Dropped task index call (l.run ms) ∨
      Resumes task index space call fault l ms := by
  obtain ⟨i, h | h⟩ := h
  · obtain ⟨j, hj, -⟩ | ⟨j, hj⟩ | h := h.run_notify hc ho hn ms
    · exact .inl ⟨j, .inl hj⟩
    · exact .inl ⟨j, .inr hj⟩
    · exact .inr h
  · obtain ⟨j, hj, -⟩ | h := h.run_resume hc ho hn ms
    · exact .inl ⟨j, .inr hj⟩
    · exact .inr h

/-- After two rounds of the queue the news have come. -/
theorem Coming.rounds (h : Coming task index space call fault l) (hc : Coherent l) (ho : Orderly l)
    (hn : (l.service.get? space).isSome) {ms₁ ms₂ : List Move} (h₁ : l.ready.length ≤ turns ms₁)
    (h₂ : (l.run ms₁).ready.length ≤ turns ms₂) :
    Dropped task index call (l.run (ms₁ ++ ms₂)) ∨
      ∃ o, (l.run (ms₁ ++ ms₂)).answer? task index = some o := by
  have hlt : ∀ {l : Loop} {job : Job} {i : Nat}, Due l task index call job i →
      i < l.ready.length := fun hd => (List.getElem?_eq_some_iff.1 hd.job).1
  have hdone : Dropped task index call (l.run ms₁) ∨ Resumes task index space call fault l ms₁ →
      Dropped task index call (l.run (ms₁ ++ ms₂)) ∨
        ∃ o, (l.run (ms₁ ++ ms₂)).answer? task index = some o := by
    rw [run_append]
    rintro (hd | hr)
    · exact .inl (hd.run ms₂)
    · obtain ⟨o, ha⟩ := hr.answer?
      exact .inr ⟨o, run_answer? ms₂ ha⟩
  obtain ⟨i, h | h⟩ := h
  · have hi := hlt h
    obtain ⟨j, -, hj⟩ | ⟨j, hj⟩ | h := h.run_notify hc ho hn ms₁
    · omega
    · have hi := hlt hj
      have hsome : ((l.run ms₁).service.get? space).isSome := by rw [run_isSome, hn]
      obtain ⟨k, -, hk⟩ | hd | hr := hj.run_resume (hc.run ms₁) (ho.run hc ms₁) hsome ms₂
      · omega
      · exact .inl (by rw [run_append]; exact hd)
      · exact .inr (by rw [run_append]; exact hr.answer?)
    · exact hdone h
  · have hi := hlt h
    obtain ⟨j, -, hj⟩ | h := h.run_resume hc ho hn ms₁
    · omega
    · exact hdone h

end News

end LiveConfig.Loop
