import LiveConfig.Proofs.Content
set_option autoImplicit false

/-!
The queue and the tasks. Jobs are taken from the front and put at the end, so that each has its
turn after those that stand before it. A task that goes on gets more answers and keeps those that
it has; all others are left alone, or cancelled.
-/
namespace LiveConfig.Loop

def answer? (l : Loop) (task index : Nat) : Option (Except Fault Answer) :=
  (l.tasks.get? task).bind fun t => t.answers[index]?

theorem getElem?_longer {α : Type} {xs ys : List α} (h : xs <+: ys) {i : Nat} {x : α}
    (hx : xs[i]? = some x) : ys[i]? = some x := by
  obtain ⟨hi, rfl⟩ := List.getElem?_eq_some_iff.1 hx
  exact List.prefix_iff_getElem?.1 h i hi

section Proceed
variable (l : Loop) (task : Nat) (target : Target) (answers : List (Except Fault Answer))
  (calls : List Call)

theorem proceed_ready : l.ready <+: (l.proceed task target answers calls).ready :=
  proceed_keeps (P := fun l' => l.ready <+: l'.ready)
    (fun l' target call h => by rw [ask_ready]; exact h.trans (List.prefix_append _ _))
    (fun _ _ _ h => h) (fun _ _ h => h) List.prefix_rfl target answers calls

theorem proceed_others {j : Nat} (hj : j ≠ task) :
    (l.proceed task target answers calls).tasks.get? j = l.tasks.get? j :=
  proceed_keeps (P := fun l' => l'.tasks.get? j = l.tasks.get? j)
    (fun l' target call h => by rw [ask_tasks, h]) (fun _ _ _ h => h)
    (fun l' t h => (Table.get?_insert ..).trans ((if_neg hj).trans h)) rfl target answers calls

theorem proceed_answers : ∃ t, (l.proceed task target answers calls).tasks.get? task = some t ∧
    answers <+: t.answers := by
  induction calls generalizing l answers with
  | nil => exact ⟨_, (Table.get?_insert ..).trans (if_pos rfl), List.prefix_rfl⟩
  | cons call rest ih =>
    rw [proceed]
    split
    next l' outcome hask =>
      obtain ⟨t, ht, hp⟩ := ih l' (answers ++ [outcome])
      exact ⟨t, ht, (List.prefix_append _ _).trans hp⟩
    next l' space number hask =>
      exact ⟨_, (Table.get?_insert ..).trans (if_pos rfl), List.prefix_rfl⟩

variable {l task target answers calls}

theorem proceed_answer? {i : Nat} {o : Except Fault Answer} (h : answers[i]? = some o) :
    (l.proceed task target answers calls).answer? task i = some o := by
  obtain ⟨t, ht, hp⟩ := proceed_answers l task target answers calls
  rw [answer?, ht]
  exact getElem?_longer hp h

/-- A call that is answered at once has its answer when the stretch is over. -/
theorem asking_now {a : Asked} (ha : a ∈ l.asking task target answers.length calls)
    {o : Except Fault Answer} (hr : (a.loop.ask a.target a.call).2 = .now o) :
    (l.proceed task target answers calls).answer? a.task a.index = some o := by
  induction calls generalizing l answers with
  | nil => cases ha
  | cons call rest ih =>
    rw [asking, List.mem_cons] at ha
    rw [proceed]
    rcases ha with rfl | ha
    · simp only at hr
      split
      next l' outcome hask =>
        rw [hask] at hr
        cases hr
        exact proceed_answer? (by simp)
      next l' space number hask => rw [hask] at hr; cases hr
    · cases hask : l.ask target call with
      | mk l' reply =>
        rw [hask] at ha
        cases reply with
        | now outcome =>
          refine ih ?_
          rw [List.length_append]
          exact ha
        | later space number => cases ha

theorem asking_later {a : Asked} (ha : a ∈ l.asking task target answers.length calls)
    {space number : Nat} (hr : (a.loop.ask a.target a.call).2 = .later space number) :
    ∃ rest given, given.length = a.index ∧ l.proceed task target answers calls =
      ((a.loop.ask a.target a.call).1.join space number a.task).setTask a.task
        ⟨a.target, a.call :: rest, given, .waiting⟩ := by
  induction calls generalizing l answers with
  | nil => cases ha
  | cons call rest ih =>
    rw [asking, List.mem_cons] at ha
    rw [proceed]
    rcases ha with rfl | ha
    · simp only at hr
      split
      next l' outcome hask => rw [hask] at hr; cases hr
      next l' space' number' hask =>
        rw [hask] at hr
        cases hr
        exact ⟨rest, answers, rfl, by rw [hask]⟩
    · cases hask : l.ask target call with
      | mk l' reply =>
        rw [hask] at ha
        cases reply with
        | now outcome =>
          refine ih ?_
          rw [List.length_append]
          exact ha
        | later space number => cases ha

end Proceed

section Fetches
variable {l : Loop} {space number : Nat} {f : Fetch} {n : Namespace}

theorem runFetch_tasks (hf : l.findFetch? space number = some f)
    (hn : l.service.get? space = some n) : (l.runFetch space number).tasks = l.tasks := by
  obtain ⟨-, rfl, rfl⟩ := findFetch?_eq_some hf
  cases hp : (n.backend.advance l.world f.number f.stage n.storeId).value.2 with
  | waits next => rw [runFetch_waits hf hn hp]; rfl
  | ends outcome =>
    rw [runFetch_ends hf hn hp, finish_tasks outcome ((visited_get? hn _ _).trans (if_pos rfl))]
    rfl

theorem runFetch_ready (hf : l.findFetch? space number = some f)
    (hn : l.service.get? space = some n) : l.ready <+: (l.runFetch space number).ready := by
  obtain ⟨-, rfl, rfl⟩ := findFetch?_eq_some hf
  cases hp : (n.backend.advance l.world f.number f.stage n.storeId).value.2 with
  | waits next => rw [runFetch_waits hf hn hp]; exact List.prefix_rfl
  | ends outcome =>
    rw [runFetch_ends hf hn hp, finish_ready outcome ((visited_get? hn _ _).trans (if_pos rfl))]
    exact List.prefix_append _ _

end Fetches

def behind (l : Loop) : Move → List Job
  | .turn => l.ready.tail
  | .event _ => l.ready

theorem apply_ready (l : Loop) (e : Event) : l.ready <+: (l.apply e).ready := by
  have hfree : ∀ space f, l.ready <+: (l.free space f).ready := fun space f => by
    unfold free
    split
    · exact List.prefix_append _ _
    · exact List.prefix_rfl
  cases e with
  | begin task target calls =>
    rw [apply]
    split
    · exact List.prefix_rfl
    · exact List.prefix_append _ _
  | cancel task =>
    rw [apply, cancel]
    split
    · split <;> exact List.prefix_rfl
    · exact List.prefix_rfl
  | release space => exact hfree space _
  | wake space => exact hfree space _
  | _ => exact List.prefix_rfl

theorem move_ready (l : Loop) (m : Move) : l.behind m <+: (l.move m).ready := by
  cases l.course m with
  | task job rest s turn ready stretch move =>
    rw [move, turn]
    exact l.dequeue.proceed_ready ..
  | fetch v n rest turn ready found space progress clock move =>
    rw [move, turn]
    exact runFetch_ready (l := l.dequeue) found space
  | quiet move asked visit fetches turn =>
    cases m with
    | turn => rw [(turn rfl).2.2]; exact List.prefix_append _ _
    | event e => exact l.apply_ready e

def turns : List Move → Nat
  | [] => 0
  | .turn :: ms => turns ms + 1
  | .event _ :: ms => turns ms

theorem turns_cons (m : Move) (ms : List Move) : turns (m :: ms) = turns [m] + turns ms := by
  cases m with
  | turn => exact Nat.add_comm ..
  | event e => exact (Nat.zero_add _).symm

theorem apply_task {l : Loop} {e : Event} {task : Nat} {t : Task}
    (ht : l.tasks.get? task = some t) : (l.apply e).tasks.get? task = some t ∨
      t.state ≠ .finished ∧
        (l.apply e).tasks.get? task = some { t with state := .cancelled } := by
  have hfree : ∀ space f, (l.free space f).tasks.get? task = some t := fun space f => by
    unfold free
    split <;> exact ht
  cases e with
  | begin j target calls =>
    left
    rw [apply]
    split
    · exact ht
    · next hj =>
      have hne : task ≠ j := by
        rintro rfl
        exact hj (by rw [Table.contains, ht]; rfl)
      exact (Table.get?_insert ..).trans ((if_neg hne).trans ht)
  | cancel j =>
    rw [apply, cancel]
    by_cases hj : task = j
    · subst hj
      rw [ht]
      by_cases hs : t.state = .finished
      · exact .inl (by simp [hs, ht])
      · exact .inr ⟨hs, by simp [hs, setTask]⟩
    · left
      split
      · split
        · exact ht
        · exact (Table.get?_insert ..).trans ((if_neg hj).trans ht)
      · exact ht
  | release space => exact .inl (hfree space _)
  | wake space => exact .inl (hfree space _)
  | _ => exact .inl ht

/-- In a move, a task is left alone, is cancelled, or goes on. -/
theorem move_task {l : Loop} {m : Move} {task : Nat} {t : Task} (ht : l.tasks.get? task = some t) :
    (l.move m).tasks.get? task = some t ∨
      (t.state ≠ .finished ∧ (l.move m).tasks.get? task = some { t with state := .cancelled }) ∨
      ∃ job rest s, m = .turn ∧ l.ready = job :: rest ∧ l.stretch? job = some s ∧ s.task = task ∧
        l.move m = l.dequeue.proceed s.task s.target s.answers s.calls := by
  cases l.course m with
  | task job rest s turn ready stretch move =>
    by_cases hs : s.task = task
    · exact .inr (.inr ⟨job, rest, s, turn, ready, stretch, hs, move⟩)
    · left
      rw [move, proceed_others _ _ _ _ _ (Ne.symm hs)]
      exact ht
  | fetch v n rest turn ready found space progress clock move =>
    left
    rw [move, runFetch_tasks (l := l.dequeue) found space]
    exact ht
  | quiet move asked visit fetches turn =>
    cases m with
    | turn => exact .inl (by rw [(turn rfl).2.1, ht])
    | event e =>
      rcases apply_task (e := e) ht with h | h
      · exact .inl h
      · exact .inr (.inl h)

theorem stretch?_cases {l : Loop} {job : Job} {s : Stretch} (h : l.stretch? job = some s) :
    (∃ t, job = .run s.task ∧ l.tasks.get? s.task = some t ∧ t.state = .ready ∧
        s = ⟨s.task, t.target, t.answers, t.calls⟩) ∨
      ∃ space fault t n call rest, job = .resume s.task space fault ∧
        l.tasks.get? s.task = some t ∧ t.state = .waiting ∧ l.service.get? space = some n ∧
        t.calls = call :: rest ∧
        s = ⟨s.task, t.target, t.answers ++ [conclude n call fault], rest⟩ := by
  cases job with
  | run task =>
    rw [stretch?] at h
    split at h
    next t ht =>
      split at h
      next hs => cases h; exact .inl ⟨t, rfl, ht, hs, rfl⟩
      next => cases h
    next => cases h
  | resume task space fault =>
    rw [stretch?] at h
    split at h
    next t n ht hn =>
      split at h
      next call rest hs hc =>
        cases h
        exact .inr ⟨space, fault, t, n, call, rest, rfl, ht, hs, hn, hc, rfl⟩
      next => cases h
    next => cases h
  | fetch space number => cases h
  | notify task space fault => cases h

theorem move_of_stretch {l : Loop} {job : Job} {rest : List Job} {s : Stretch}
    (hr : l.ready = job :: rest) (hs : l.stretch? job = some s) :
    l.move .turn = l.dequeue.proceed s.task s.target s.answers s.calls := by
  rw [show l.move .turn = l.dequeue.perform job from step_of_ready hr]
  obtain ⟨t, rfl, -⟩ | ⟨space, fault, t, n, call, calls, rfl, -⟩ := stretch?_cases hs
  · rw [perform, runTask_eq, show l.dequeue.stretch? _ = l.stretch? _ from rfl, hs]
  · rw [perform, resumeTask_eq, show l.dequeue.stretch? _ = l.stretch? _ from rfl, hs]

theorem move_answer? {l : Loop} {m : Move} {task index : Nat} {o : Except Fault Answer}
    (h : l.answer? task index = some o) : (l.move m).answer? task index = some o := by
  obtain ⟨t, ht, ho⟩ := Option.bind_eq_some_iff.1 h
  obtain hm | ⟨-, hm⟩ | ⟨job, rest, s, -, -, hs, rfl, hm⟩ := move_task (m := m) ht
  · rw [answer?, hm]; exact ho
  · rw [answer?, hm]; exact ho
  · rw [hm]
    obtain ⟨t', -, ht', -, he⟩ | ⟨space, fault, t', n, call, calls, -, ht', -, -, -, he⟩ :=
      stretch?_cases hs
    · cases ht.symm.trans ht'
      rw [he]
      exact proceed_answer? ho
    · cases ht.symm.trans ht'
      rw [he]
      exact proceed_answer? (getElem?_longer (List.prefix_append _ _) ho)

theorem run_answer? {l : Loop} (ms : List Move) {task index : Nat} {o : Except Fault Answer}
    (h : l.answer? task index = some o) : (l.run ms).answer? task index = some o :=
  run_keeps (P := fun l => l.answer? task index = some o) (fun _ _ h => move_answer? h) h ms

end LiveConfig.Loop
