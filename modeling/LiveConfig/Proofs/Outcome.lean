import LiveConfig.Proofs.News
set_option autoImplicit false

/-!
The outcome of every call that reads a namespace. With a snapshot it is answered at once. Without
one it waits for a fetch, together with all other such calls, and gets the fault of that fetch, or
its answer from the snapshot that is there when it resumes.
-/
namespace LiveConfig.Loop

def Cancelled (l : Loop) (task : Nat) : Prop :=
  ∃ t, l.tasks.get? task = some t ∧ t.state = .cancelled

theorem conclude_of_error {call : Call} (h : call.reads) (n : Namespace) (f : Fault) :
    conclude n call (some f) = .error f := by
  cases call <;> first | rfl | cases h

theorem conclude_of_success {call : Call} (h : call.reads) (n : Namespace) :
    conclude n call none = call.read n.name ((n.cached.map Cached.snapshot).getD .empty) := by
  cases call <;> first | rfl | cases h

theorem conclude_of_cached {call : Call} (h : call.reads) {n : Namespace} {c : Cached}
    (hc : n.cached = some c) : conclude n call none = call.read n.name c.snapshot := by
  rw [conclude_of_success h, hc]
  rfl

theorem landing_mem {l : Loop} {id : Nat} {ms₁ : List Move} {m : Move} {x : Landing}
    (hx : (l.run ms₁).landing? id m = some x) (ms₂ : List Move) :
    x ∈ l.landings (ms₁ ++ m :: ms₂) := by
  rw [landing?, Option.filter_eq_some_iff] at hx
  rw [show m :: ms₂ = [m] ++ ms₂ from rfl, landings_append, landings_append, landings_one, hx.1]
  simp

theorem Waits.run {l : Loop} {task index : Nat} {call : Call} {f : Fetch}
    (h : Waits l task index call f) (hc : Coherent l) (ho : Orderly l) (ms : List Move) :
    (f.number ∉ landed f.space (l.landings ms) ∧
        ∃ f', f'.key = f.key ∧ Waits (l.run ms) task index call f') ∨
      ∃ ms₁ m ms₂ x, ms = ms₁ ++ m :: ms₂ ∧ (l.run ms₁).landing? f.space m = some x ∧
        x.fetch.key = f.key ∧
        Coming task index f.space call (f.news x.outcome) ((l.run ms₁).move m) := by
  induction ms generalizing l f with
  | nil => exact .inl ⟨List.not_mem_nil, f, rfl, h⟩
  | cons m ms ih =>
    obtain ⟨hx, f', hk, h'⟩ | ⟨x, i, hx, hf, hd⟩ := h.move hc ho m
    · have hkey := hk
      simp only [Fetch.key, Prod.mk.injEq] at hkey
      obtain ⟨hs, hnum, hb⟩ := hkey
      have hnews : f'.news = f.news := by
        funext outcome
        rw [Fetch.news.eq_def, Fetch.news.eq_def, hb]
      have hrun := ih h' (hc.move m) (ho.move hc m)
      rw [hs, hnum, hk, hnews] at hrun
      obtain ⟨hl, f'', hk', hw⟩ | ⟨ms₁, m', ms₂, x, rfl, hx', hk', hcome⟩ := hrun
      · refine .inl ⟨?_, f'', hk', hw⟩
        rw [show m :: ms = [m] ++ ms from rfl, landings_append, landed_append, List.mem_append]
        rintro (hm | hm)
        · rw [landed_one, hx] at hm
          cases hm
        · exact hl hm
      · exact .inr ⟨m :: ms₁, m', ms₂, x, rfl, hx', hk', hcome⟩
    · exact .inr ⟨[], m, ms, x, rfl, hx, hf ▸ rfl, i, .inl hd⟩

/-- What becomes of a call that waits for the fetch of this number, after these ends of fetches.
All such calls wait for the one fetch, which is no refresh. Its fault is theirs; after its success
each is answered, in the turn in which its task resumes, from what is cached then: the snapshot that
came last. Two rounds of the queue after its end, all are answered whose tasks are not cancelled. -/
structure Shared (xs : List Landing) (l : Loop) (task index : Nat) (call : Call) (id number : Nat)
    (name : String) : Prop where
  waits : ∀ ms, number ∉ landed id (l.landings ms) → (l.run ms).answer? task index = none ∧
    ∃ f, (l.run ms).flights id = [f] ∧ f.number = number ∧ f.background = false ∧ task ∈ f.waiters
  fails : ∀ ms x e, x ∈ l.landings ms → x.fetch.space = id → x.fetch.number = number →
    x.outcome = .error e → (l.run ms).answer? task index = none ∨
      (l.run ms).answer? task index = some (.error e)
  succeeds : ∀ ms x s, x ∈ l.landings ms → x.fetch.space = id → x.fetch.number = number →
    x.outcome = .ok s → (l.run ms).answer? task index = none ∨
      ∃ ms₁ ms₂ n c, ms = ms₁ ++ .turn :: ms₂ ∧ (l.run ms₁).answer? task index = none ∧
        (l.run ms₁).service.get? id = some n ∧ n.cached = some c ∧
        (lastSuccess id (xs ++ l.landings ms₁)).bind (Landing.kept? id) = some c ∧
        ∀ ms₃, (((l.run ms₁).move .turn).run ms₃).answer? task index =
          some (call.read name c.snapshot)
  prompt : ∀ ms x ms₁ ms₂, x ∈ l.landings ms → x.fetch.space = id → x.fetch.number = number →
    (l.run ms).ready.length ≤ turns ms₁ → ((l.run ms).run ms₁).ready.length ≤ turns ms₂ →
      Cancelled ((l.run ms).run (ms₁ ++ ms₂)) task ∨
        ∃ o, ((l.run ms).run (ms₁ ++ ms₂)).answer? task index = some o

section Shared
variable {l₀ : Loop} {ms₀ : List Move} {task index : Nat} {call : Call} {f : Fetch}

/-- When the fetch of a waiting call has ended, the news are on their way since the move in which it
did. -/
theorem Waits.ended (hf : l₀.IsFresh) (h : Waits (l₀.run ms₀) task index call f) {ms : List Move}
    {x : Landing} (hx : x ∈ (l₀.run ms₀).landings ms) (hs : x.fetch.space = f.space)
    (hk : x.fetch.number = f.number) : ∃ ms₁ ms₂, ms = ms₁ ++ ms₂ ∧
      x ∈ (l₀.run ms₀).landings ms₁ ∧ Coming task index f.space call
        (f.news x.outcome) ((l₀.run ms₀).run ms₁) := by
  have hc : Coherent (l₀.run ms₀) := (Coherent.fresh hf).run ms₀
  have ho : Orderly (l₀.run ms₀) := (Orderly.fresh hf).run (.fresh hf) ms₀
  obtain ⟨hl, -⟩ | ⟨ms₁, m, ms₂, y, rfl, hy, hkey, hcome⟩ := h.run hc ho ms
  · refine absurd ?_ hl
    exact List.mem_map.2 ⟨x, List.mem_filter.2 ⟨hx, by simpa using hs⟩, hk⟩
  · simp only [Fetch.key, Prod.mk.injEq] at hkey
    have hsplit : ms₁ ++ m :: ms₂ = (ms₁ ++ [m]) ++ ms₂ := by simp
    have hmem : y ∈ (l₀.run ms₀).landings (ms₁ ++ [m]) := landing_mem hy []
    have hall : y ∈ (l₀.run ms₀).landings (ms₁ ++ m :: ms₂) := landing_mem hy ms₂
    obtain ⟨n, hn, -⟩ := hc.home f.space f (mem_flights.2 ⟨h.fetch, rfl⟩)
    have hsome : ((l₀.run (ms₀ ++ (ms₁ ++ m :: ms₂))).service.get? f.space).isSome := by
      rw [run_append, run_isSome, hn]; rfl
    obtain ⟨n', hn'⟩ := Option.isSome_iff_exists.1 hsome
    have ha := ((Accounts.fresh hf).run (.fresh hf) (ms₀ ++ (ms₁ ++ m :: ms₂)) _ n' hn').landed
    change landed _ (l₀.landings _) ++ _ = _ at ha
    rw [landings_append] at ha
    -- The numbers of all ends are distinct, so this end is the one that comes to the call.
    have he : x = y := landing_unique ha (List.mem_append_right _ hx) (List.mem_append_right _ hall)
      hs hkey.1 (hk.trans hkey.2.1.symm)
    subst he
    refine ⟨ms₁ ++ [m], ms₂, hsplit, hmem, ?_⟩
    rw [run_append]
    exact hcome

theorem Coming.answer?_eq_none {l : Loop} {space : Nat} {fault : Option Fault}
    (h : Coming task index space call fault l) : l.answer? task index = none := by
  obtain ⟨i, h | h⟩ := h
  · obtain ⟨t, ht⟩ := h.underWay
    exact ht.answer?_eq_none
  · obtain ⟨t, ht⟩ := h.underWay
    exact ht.answer?_eq_none

theorem Dropped.answer?_eq_none {l : Loop} (h : Dropped task index call l) :
    l.answer? task index = none := by
  obtain ⟨t, ht, -⟩ := h
  exact ht.answer?_eq_none

theorem Dropped.cancelled {l : Loop} (h : Dropped task index call l) : Cancelled l task := by
  obtain ⟨t, ht, hs⟩ := h
  exact ⟨t, ht.task, hs⟩

theorem cached_of_landing (hf : l₀.IsFresh) {ms : List Move} {id : Nat} {n : Namespace}
    (hn : (l₀.run ms).service.get? id = some n) {x : Landing} {s : Snapshot}
    (hx : x ∈ l₀.landings ms) (hi : x.fetch.space = id) (hs : x.outcome = .ok s) :
    ∃ c, n.cached = some c ∧
      (lastSuccess id (l₀.landings ms)).bind (Landing.kept? id) = some c := by
  obtain ⟨y, s', hy, hyi, hys⟩ := lastSuccess_of_mem hx hi hs
  have ha := ((Accounts.fresh hf).run (.fresh hf) ms id n hn).cached
  change n.cached = (lastSuccess id (l₀.landings ms)).bind _ at ha
  have hc : (lastSuccess id (l₀.landings ms)).bind (Landing.kept? id) = some ⟨s', y.clock⟩ := by
    rw [hy, Option.bind_some, Landing.kept?, if_pos hyi, hys]
    rfl
  exact ⟨_, ha.trans hc, hc⟩

theorem Waits.reached (hf : l₀.IsFresh) (h : Waits (l₀.run ms₀) task index call f) {ms : List Move}
    {x : Landing} (hx : x ∈ (l₀.run ms₀).landings ms) (hs : x.fetch.space = f.space)
    (hk : x.fetch.number = f.number) :
    Coming task index f.space call (f.news x.outcome) ((l₀.run ms₀).run ms) ∨
      Dropped task index call ((l₀.run ms₀).run ms) ∨
      ∃ ms₁ ms₂ n, ms = ms₁ ++ .turn :: ms₂ ∧ x ∈ (l₀.run ms₀).landings ms₁ ∧
        ((l₀.run ms₀).run ms₁).service.get? f.space = some n ∧
        ((l₀.run ms₀).run ms₁).answer? task index = none ∧
        (((l₀.run ms₀).run ms₁).move .turn).answer? task index =
          some (conclude n call (f.news x.outcome)) := by
  have hc : Coherent (l₀.run ms₀) := (Coherent.fresh hf).run ms₀
  have ho : Orderly (l₀.run ms₀) := (Orderly.fresh hf).run (.fresh hf) ms₀
  obtain ⟨n, hn, -⟩ := hc.home f.space f (mem_flights.2 ⟨h.fetch, rfl⟩)
  obtain ⟨ms₁, ms₂, rfl, hmem, hcome⟩ := h.ended hf hx hs hk
  have hsome : (((l₀.run ms₀).run ms₁).service.get? f.space).isSome := by rw [run_isSome, hn]; rfl
  rw [run_append]
  obtain hcome | hd | ⟨as, bs, n', rfl, hn', hnone, ha⟩ :=
    hcome.run (hc.run ms₁) (ho.run hc ms₁) hsome ms₂
  · exact .inl hcome
  · exact .inr (.inl hd)
  · refine .inr (.inr ⟨ms₁ ++ as, bs, n', by simp, ?_, ?_, ?_, ?_⟩)
    · rw [landings_append]
      exact List.mem_append_left _ hmem
    all_goals rwa [run_append]

/-- While its fetch has not ended, a call waits for it. -/
theorem Waits.unlanded {l : Loop} (h : Waits l task index call f) (hc : Coherent l) (ho : Orderly l)
    {ms : List Move} (hk : f.number ∉ landed f.space (l.landings ms)) :
    ∃ f', f'.key = f.key ∧ Waits (l.run ms) task index call f' := by
  obtain ⟨-, h'⟩ | ⟨ms₁, m, ms₂, x, rfl, hx, hkey, -⟩ := h.run hc ho ms
  · exact h'
  · refine absurd ?_ hk
    simp only [Fetch.key, Prod.mk.injEq] at hkey
    rw [show ms₁ ++ m :: ms₂ = ms₁ ++ ([m] ++ ms₂) from rfl, landings_append, landings_append,
      landed_append, landed_append, landed_one, hx]
    simp [hkey.2.1]

/-- Two rounds of the queue after the end of its fetch, a call is answered or its task cancelled. -/
theorem Waits.prompt (hf : l₀.IsFresh) (h : Waits (l₀.run ms₀) task index call f) {ms : List Move}
    {x : Landing} (hx : x ∈ (l₀.run ms₀).landings ms) (hs : x.fetch.space = f.space)
    (hk : x.fetch.number = f.number) {ms₁ ms₂ : List Move}
    (h₁ : ((l₀.run ms₀).run ms).ready.length ≤ turns ms₁)
    (h₂ : (((l₀.run ms₀).run ms).run ms₁).ready.length ≤ turns ms₂) :
    Cancelled (((l₀.run ms₀).run ms).run (ms₁ ++ ms₂)) task ∨
      ∃ o, (((l₀.run ms₀).run ms).run (ms₁ ++ ms₂)).answer? task index = some o := by
  have hc : Coherent (l₀.run ms₀) := (Coherent.fresh hf).run ms₀
  have ho : Orderly (l₀.run ms₀) := (Orderly.fresh hf).run (.fresh hf) ms₀
  obtain ⟨n, hn, -⟩ := hc.home f.space f (mem_flights.2 ⟨h.fetch, rfl⟩)
  have hsome : (((l₀.run ms₀).run ms).service.get? f.space).isSome := by rw [run_isSome, hn]; rfl
  obtain hcome | hd | ⟨as, bs, n', rfl, -, -, -, ha⟩ := h.reached hf hx hs hk
  · rcases hcome.rounds (hc.run ms) (ho.run hc ms) hsome h₁ h₂ with hd | ha
    · exact .inl hd.cancelled
    · exact .inr ha
  · exact .inl (hd.run _).cancelled
  · right
    have hans := run_answer? bs ha
    rw [← run_cons, ← run_append] at hans
    exact ⟨_, run_answer? (ms₁ ++ ms₂) hans⟩

theorem Waits.shared (hf : l₀.IsFresh) (h : Waits (l₀.run ms₀) task index call f)
    (hb : f.background = false) (hr : call.reads) {n : Namespace}
    (hn : (l₀.run ms₀).service.get? f.space = some n) :
    Shared (l₀.landings ms₀) (l₀.run ms₀) task index call f.space f.number n.name := by
  have hc : Coherent (l₀.run ms₀) := (Coherent.fresh hf).run ms₀
  have ho : Orderly (l₀.run ms₀) := (Orderly.fresh hf).run (.fresh hf) ms₀
  refine ⟨fun ms hk => ?_, fun ms x e hx hs hk hout => ?_, fun ms x s hx hs hk hout => ?_,
    fun ms x ms₁ ms₂ hx hs hk h₁ h₂ => h.prompt hf hx hs hk h₁ h₂⟩
  · obtain ⟨f', hkey, h'⟩ := h.unlanded hc ho hk
    obtain ⟨t, ht⟩ := h'.underWay
    simp only [Fetch.key, Prod.mk.injEq] at hkey
    refine ⟨ht.answer?_eq_none, f', ?_, hkey.2.1, hkey.2.2.trans hb, h'.waiter⟩
    exact (hc.run ms).flights_eq_singleton (mem_flights.2 ⟨h'.fetch, hkey.1⟩)
  · obtain hcome | hd | ⟨ms₁, ms₂, n', rfl, -, -, -, ha⟩ := h.reached hf hx hs hk
    · exact .inl hcome.answer?_eq_none
    · exact .inl hd.answer?_eq_none
    · right
      simp only [hout, Fetch.news, hb, Bool.false_eq_true, if_false, conclude_of_error hr] at ha
      rw [run_append, run_cons]
      exact run_answer? ms₂ ha
  · obtain hcome | hd | ⟨ms₁, ms₂, n', rfl, hx', hn', hnone, ha⟩ := h.reached hf hx hs hk
    · exact .inl hcome.answer?_eq_none
    · exact .inl hd.answer?_eq_none
    · right
      have hn'' : (l₀.run (ms₀ ++ ms₁)).service.get? f.space = some n' := by rwa [run_append]
      have hx'' : x ∈ l₀.landings (ms₀ ++ ms₁) := by
        rw [landings_append]
        exact List.mem_append_right _ hx'
      obtain ⟨c, hcached, hlast⟩ := cached_of_landing hf hn'' hx'' hs hout
      have hname := run_name (l₀.run ms₀) ms₁ f.space
      rw [hn', hn, Option.map_some, Option.map_some, Option.some.injEq] at hname
      rw [landings_append] at hlast
      refine ⟨ms₁, ms₂, n', c, rfl, hnone, hn', hcached, hlast, fun ms₃ => ?_⟩
      simp only [hout, Fetch.news, conclude_of_cached hr hcached, hname] at ha
      exact run_answer? ms₃ ha

end Shared

/-- Calls are made when it is the turn of a job that lets a task go on. -/
theorem stretch_of_asked {l : Loop} {m : Move} {a : Asked} (ha : a ∈ l.asked m) :
    ∃ job rest s, l.ready = job :: rest ∧ l.stretch? job = some s ∧
      l.move m = l.dequeue.proceed s.task s.target s.answers s.calls ∧
      l.asked m = l.dequeue.asking s.task s.target s.answers.length s.calls := by
  cases l.course m with
  | task job rest s turn ready stretch move asked visit =>
    exact ⟨job, rest, s, ready, stretch, move, asked⟩
  | fetch v n rest turn ready found space progress clock move asked visit =>
    rw [asked] at ha
    cases ha
  | quiet move asked visit =>
    rw [asked] at ha
    cases ha

theorem asked_cases {l : Loop} {m : Move} {a : Asked} (ha : a ∈ l.asked m) :
    ∃ s : Stretch, l.move m = l.dequeue.proceed s.task s.target s.answers s.calls ∧
      a ∈ l.dequeue.asking s.task s.target s.answers.length s.calls := by
  obtain ⟨_, _, s, -, -, hm, hasked⟩ := stretch_of_asked ha
  exact ⟨s, hm, hasked ▸ ha⟩

/-- A call that is not answered at once waits for the fetch that is in flight then. -/
theorem waits_of_later {l : Loop} (hc : Coherent l) {m : Move} {a : Asked} (ha : a ∈ l.asked m)
    {id k : Nat} (hr : (a.loop.ask a.target a.call).2 = .later id k) {n : Namespace}
    (hn : (a.loop.ask a.target a.call).1.service.get? id = some n) (hi : n.inFlight = some k) :
    ∃ f, Waits (l.move m) a.task a.index a.call f ∧ f.space = id ∧ f.number = k ∧
      f.background = n.cached.isSome ∧ (l.move m).service.get? id = some n := by
  obtain ⟨s, hm, hs⟩ := asked_cases ha
  have hd : Coherent l.dequeue := hc.quiet (.of_eq rfl rfl)
  have hca : Coherent a.loop :=
    asking_keeps (fun _ target call h => h.ask target call) hd _ _ _ _ a hs
  have hask := hca.ask a.target a.call
  obtain ⟨f, hf, hk⟩ := hask.exists_flight hn hi
  have hmem : f ∈ (a.loop.ask a.target a.call).1.flights id := hf ▸ List.mem_singleton.2 rfl
  obtain ⟨hfetch, hspace⟩ := mem_flights.1 hmem
  obtain ⟨n', hn', -, hb⟩ := hask.home id f hmem
  cases hn.symm.trans hn'
  obtain ⟨rest, given, hlen, hp⟩ := asking_later hs hr
  rw [hm, hp]
  refine ⟨{ f with waiters := f.waiters ++ [a.task] }, ⟨?_, ?_, ?_⟩, hspace, hk, hb, hn⟩
  · exact ⟨⟨a.target, a.call :: rest, given, .waiting⟩,
      ⟨(Table.get?_insert ..).trans (if_pos rfl), hlen, ⟨rest, rfl⟩, .inl rfl⟩⟩
  · exact List.mem_map.2 ⟨f, hfetch, if_pos ⟨hspace, hk⟩⟩
  · exact List.mem_append_right _ (List.mem_singleton.2 rfl)

/-- A call that finds no snapshot waits for the fetch in flight, or for the one that it starts. -/
theorem waits_of_missing {l : Loop} (hc : Coherent l) {m : Move} {a : Asked} (ha : a ∈ l.asked m)
    (hr : a.call.reads) {id : Nat} (hl : a.loop.locate a.target = .ok id) {n : Namespace}
    (hn : a.loop.service.get? id = some n) (hmiss : n.cached = none) :
    ∃ f n', Waits (l.move m) a.task a.index a.call f ∧ f.space = id ∧
      f.number = n.inFlight.getD n.started ∧ f.background = false ∧
      (l.move m).service.get? id = some n' ∧ n'.name = n.name := by
  obtain ⟨hrep, n', hn', hi, hmiss'⟩ := ask_of_missing hl hn hr hmiss
  obtain ⟨f, hw, hs, hk, hb, hend⟩ := waits_of_later hc ha hrep hn' hi
  have hname := ask_map a.loop a.target a.call id (g := Namespace.name) fun _ => rfl
  rw [hn', hn] at hname
  exact ⟨f, n', hw, hs, hk, by rw [hb, hmiss']; rfl, hend, Option.some.inj hname⟩

/-- What becomes of a call that reads a namespace. With a snapshot it is answered from it in the
move in which it is made, and fails only for want of a key or in its schema; without one it shares
the outcome of a fetch. -/
structure Outcome (l : Loop) (ms : List Move) (m : Move) (a : Asked) (id : Nat) (n : Namespace) :
    Prop where
  immediate : ∀ c ms', n.cached = some c →
    (((l.run ms).move m).run ms').answer? a.task a.index = some (a.call.read n.name c.snapshot)
  faults : ∀ s f, a.call.read n.name s = .error f ↔
    (∃ key, a.call = .require key ∧ s.get? (Text.codePoints key) = none ∧
        f = .keyNotFound key n.name) ∨
      ∃ schema, a.call = .parse schema ∧ schema s = .error f
  shared : n.cached = none → Shared (l.landings (ms ++ [m])) ((l.run ms).move m) a.task a.index
    a.call id (n.inFlight.getD n.started) n.name

theorem access_outcome {l : Loop} (hf : l.IsFresh) (ms : List Move) {m : Move} {a : Asked}
    (ha : a ∈ (l.run ms).asked m) (hr : a.call.reads) {id : Nat}
    (hl : a.loop.locate a.target = .ok id) {n : Namespace} (hn : a.loop.service.get? id = some n) :
    Outcome l ms m a id n := by
  refine ⟨fun c ms' hc => ?_, fun s f => Call.read_eq_error_iff hr n.name s f, fun hmiss => ?_⟩
  · obtain ⟨s, hm, hs⟩ := asked_cases ha
    rw [hm]
    exact run_answer? ms' (asking_now hs (ask_of_cached hl hn hr hc))
  · have hc : Coherent (l.run ms) := (Coherent.fresh hf).run ms
    obtain ⟨f, n', hw, rfl, hk, hb, hn', hname⟩ := waits_of_missing hc ha hr hl hn hmiss
    have hrun : (l.run ms).move m = l.run (ms ++ [m]) := by rw [run_append]; rfl
    rw [hrun] at hw hn' ⊢
    rw [← hk, ← hname]
    exact hw.shared hf hb hr hn'

/-- The first of the two tasks whose fetch fails, and the one after them that is served. -/
theorem access_outcome_held : ∃ a n, a ∈ (held.run (waiting.take 2)).asked .turn ∧
    a.call.reads = true ∧ a.loop.locate a.target = .ok 0 ∧ a.loop.service.get? 0 = some n ∧
    n.cached = none ∧ Outcome held (waiting.take 2) .turn a 0 n ∧
    (held.run recovered).answer? 0 0 = some (.error .rejected) ∧
    (held.run (recovered ++ [.turn, .turn])).answer? 2 0 = some (.ok (.snapshot .empty)) :=
  ⟨_, _, .head _, rfl, rfl, rfl, rfl,
    access_outcome held_isFresh (waiting.take 2) (.head _) rfl rfl rfl, rfl, rfl⟩

end LiveConfig.Loop
