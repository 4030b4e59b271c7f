import LiveConfig.Proofs.Content
set_option autoImplicit false

/-!
When fetches start. A call that reads a namespace starts one when there is no snapshot, or an old
one, and no other is in flight. Nothing else starts one.
-/
namespace LiveConfig.Loop

def started (l : Loop) (id : Nat) : Nat := ((l.service.get? id).map Namespace.started).getD 0

def launched (id : Nat) (as : List Asked) : List Nat :=
  as.flatMap fun a => ((a.loop.launch a.target a.call).filter (·.space = id)).map Fetch.number

theorem started_eq {l : Loop} {id : Nat} {n : Namespace} (hn : l.service.get? id = some n) :
    l.started id = n.started := by rw [started, hn]; rfl

theorem ask_started (l : Loop) (target : Target) (call : Call) (id : Nat) :
    List.range (l.started id) ++
        ((l.launch target call).filter (·.space = id)).map Fetch.number =
      List.range ((l.ask target call).1.started id) := by
  obtain ⟨hf, ha⟩ | ⟨j, n, notice, -, hn, -, -, hf, ha⟩ := l.ask_cases target call
  · rw [hf, ha]
    exact List.append_nil _
  · have hg := startFetch_get? (show (l.say notice).service.get? j = some n from hn)
      n.cached.isSome
    rw [hf, ha]
    by_cases hj : j = id
    · subst hj
      rw [started_eq hn, started_eq ((hg j).trans (if_pos rfl)), Namespace.startFetch,
        List.range_succ]
      simp
    · rw [started, started, hg, if_neg hj]
      simp [hj, say, write]

theorem proceed_started (l : Loop) (task : Nat) (target : Target)
    (answers : List (Except Fault Answer)) (index : Nat) (calls : List Call) (id : Nat) :
    List.range (l.started id) ++ launched id (l.asking task target index calls) =
      List.range ((l.proceed task target answers calls).started id) := by
  induction calls generalizing l answers index with
  | nil => exact List.append_nil _
  | cons call rest ih =>
    have hs := l.ask_started target call id
    rw [asking, proceed, launched, List.flatMap_cons, ← List.append_assoc, hs]
    cases hask : l.ask target call with
    | mk l' reply =>
      cases reply with
      | now outcome => exact ih l' _ _
      | later space number => exact List.append_nil _

theorem move_started (l : Loop) (m : Move) (id : Nat) :
    List.range (l.started id) ++ launched id (l.asked m) =
      List.range ((l.move m).started id) := by
  cases l.course m with
  | task job rest s turn ready stretch move asked visit =>
    rw [asked, move]
    exact l.dequeue.proceed_started s.task s.target s.answers _ s.calls id
  | fetch v n rest turn ready found space progress clock move asked visit =>
    rw [asked, move, started, started, runFetch_get? (l := l.dequeue) found space]
    refine (List.append_nil _).trans ?_
    by_cases he : v.fetch.space = id
    · rw [if_pos he, ← he, space]
      obtain ⟨_, _, _, ht⟩ := n.turn_eq
        (n.backend.advance l.dequeue.world v.fetch.number v.fetch.stage n.storeId).value.1
        v.fetch.background l.dequeue.clock
        (n.backend.advance l.dequeue.world v.fetch.number v.fetch.stage n.storeId).value.2
      rw [ht]
      rfl
    · rw [if_neg he]; rfl
  | quiet move asked visit =>
    have hs := congrArg (Option.map Namespace.started) (move.core id)
    rw [Option.map_map, Option.map_map] at hs
    rw [asked, started, started]
    exact (List.append_nil _).trans (congrArg (fun k => List.range (Option.getD k 0)) hs.symm)

theorem run_started (l : Loop) (ms : List Move) (id : Nat) :
    List.range (l.started id) ++ launched id (l.calls ms) = List.range ((l.run ms).started id) := by
  induction ms generalizing l with
  | nil => exact List.append_nil _
  | cons m ms ih =>
    rw [calls, launched, List.flatMap_append, ← List.append_assoc]
    have hm := l.move_started m id
    rw [launched] at hm
    rw [hm]
    exact ih (l.move m)

/-- A fetch that is there after a move was there before, or a call of the move has started it. -/
theorem Accounts.flight_move {vs : List Visited} {l : Loop} (h : Accounts vs l) (hc : Coherent l)
    {m : Move} {id : Nat} {f : Fetch} (hf : f ∈ (l.move m).flights id) :
    (∃ g ∈ l.flights id, g.number = f.number) ∨ f.number ∈ launched id (l.asked m) := by
  obtain ⟨n', hn', -⟩ := (hc.move m).home id f hf
  have hsome : (l.service.get? id).isSome := by rw [← move_isSome l m, hn']; rfl
  obtain ⟨n, hn⟩ := Option.isSome_iff_exists.1 hsome
  have hl := (h id n hn).landed
  have hl' := (h.move hc m id n' hn').landed
  have hs := l.move_started m id
  rw [List.filterMap_append, landed_append] at hl'
  rw [started_eq hn, started_eq hn', ← hl, ← hl'] at hs
  have hnum : f.number ∈ ((l.move m).flights id).map Fetch.number := List.mem_map_of_mem hf
  have hk : f.number ∈ (landed id (vs.filterMap Visited.landing?) ++
      (l.flights id).map Fetch.number) ++ launched id (l.asked m) := by
    rw [hs]
    exact List.mem_append_right _ hnum
  have hd := (List.nodup_append.1 (hl' ▸ List.nodup_range (n := n'.started))).2.2
  rw [List.mem_append, List.mem_append] at hk
  rcases hk with (hk | hk) | hk
  -- A fetch that had ended before is not there any more: the numbers are distinct.
  · exact absurd rfl (hd _ (List.mem_append_left _ hk) _ hnum)
  · obtain ⟨g, hg, he⟩ := List.mem_map.1 hk
    exact .inl ⟨g, hg, he⟩
  · exact .inr hk

theorem Coherent.slot_of_landing {l : Loop} (hc : Coherent l) {m : Move} {id : Nat} {x : Landing}
    {n : Namespace} (hx : l.landing? id m = some x) (hn : (l.move m).service.get? id = some n) :
    n.inFlight = none := by
  have hm := (landing_found hx).1
  obtain ⟨n₀, hn₀, -⟩ := hc.home id x.fetch hm
  obtain ⟨h, -⟩ | ⟨y, -, -, hi⟩ := hc.slot_move hn₀ (hc.inFlight_eq hm hn₀) hn
  · cases hx.symm.trans h
  · exact hi

/-- While a fetch does not end, no other is started, and the backend is not asked again. -/
theorem Coherent.busy {l : Loop} (hc : Coherent l) {id k : Nat} {n : Namespace}
    (hn : l.service.get? id = some n) (hi : n.inFlight = some k) {ms : List Move}
    (hk : k ∉ landed id (l.landings ms)) :
    (∃ n', (l.run ms).service.get? id = some n' ∧ n'.inFlight = some k) ∧
      ∀ v ∈ l.visits ms, v.fetch.space = id → v.fetch.number = k := by
  induction ms generalizing l n with
  | nil => exact ⟨⟨n, hn, hi⟩, fun v hv => absurd hv List.not_mem_nil⟩
  | cons m ms ih =>
    rw [show m :: ms = [m] ++ ms from rfl, landings_append, landed_append, List.mem_append,
      not_or] at hk
    have hsome : ((l.move m).service.get? id).isSome := by rw [move_isSome, hn]; rfl
    obtain ⟨n', hn'⟩ := Option.isSome_iff_exists.1 hsome
    obtain ⟨-, hi'⟩ | ⟨x, hx, hxk, -⟩ := hc.slot_move hn hi hn'
    · obtain ⟨hend, hvs⟩ := ih (hc.move m) hn' hi' hk.2
      refine ⟨hend, fun v hv hs => ?_⟩
      rw [visits, List.mem_append, Option.mem_toList] at hv
      rcases hv with hv | hv
      · have hm := hc.inFlight_eq (mem_flights.2 ⟨(visit_found hv).1, hs⟩) hn
        exact Option.some.inj (hm.symm.trans hi)
      · exact hvs v hv hs
    -- The fetch ends in the first move, against the assumption.
    · refine absurd ?_ hk.1
      rw [landed_one, hx]
      exact List.mem_singleton.2 hxk.symm

/-- A namespace keeps its snapshot for good: it never gets old, and nothing replaces it. -/
def Settled (id : Nat) (l : Loop) : Prop :=
  ∃ n, l.service.get? id = some n ∧ n.inFlight = none ∧ n.cached.isSome ∧ n.interval = none

namespace Settled
variable {id : Nat} {l : Loop}

theorem not_wants {n : Namespace} (h : Settled id l) (hn : l.service.get? id = some n) :
    ¬n.Wants l.clock := by
  obtain ⟨n', hn', -, hc, hi⟩ := h
  cases hn.symm.trans hn'
  rintro ⟨-, hw | hw⟩
  · rw [hw] at hc; cases hc
  · rw [Namespace.not_isStale_of_interval hi] at hw; cases hw

theorem ask (h : Settled id l) (target : Target) (call : Call) :
    Settled id (l.ask target call).1 := by
  obtain ⟨-, ha⟩ | ⟨j, n, notice, -, hn, -, hw, -, ha⟩ := l.ask_cases target call
  · rwa [ha]
  · have hj : j ≠ id := fun hj => h.not_wants (hj ▸ hn) hw
    obtain ⟨n', hn', hs⟩ := h
    refine ⟨n', ?_, hs⟩
    rw [ha, startFetch_get? (show (l.say notice).service.get? j = some n from hn), if_neg hj]
    exact hn'

theorem launch (h : Settled id l) (target : Target) (call : Call) :
    (l.launch target call).filter (·.space = id) = [] := by
  obtain ⟨hf, -⟩ | ⟨j, n, notice, -, hn, -, hw, hf, -⟩ := l.ask_cases target call
  · rw [hf]; rfl
  · have hj : j ≠ id := fun hj => h.not_wants (hj ▸ hn) hw
    rw [hf]
    simp [hj]

end Settled

theorem apply_interval {l : Loop} {e : Event} {id : Nat} {n : Namespace}
    (hn : l.service.get? id = some n) (hi : n.interval = none)
    (he : ∀ i, e ≠ .setInterval id (some i)) :
    ∃ n', (l.apply e).service.get? id = some n' ∧ n'.interval = none := by
  have hu : ∀ space (f : Namespace → Namespace), (∀ n, (f n).interval = n.interval) →
      ∃ n', (l.update space f).service.get? id = some n' ∧ n'.interval = none := by
    intro space f hf
    have hm := l.service.map_get?_update space id f hf
    rw [hn, Option.map_some, Option.map_eq_some_iff] at hm
    obtain ⟨n', hn', hi'⟩ := hm
    exact ⟨n', hn', hi'.trans hi⟩
  have hfree : ∀ space f, ∃ n', (l.free space f).service.get? id = some n' ∧
      n'.interval = none := by
    intro space f
    unfold free
    split
    · exact hu space _ fun _ => rfl
    · exact ⟨n, hn, hi⟩
  cases e with
  | begin task target calls =>
    rw [apply]
    split <;> exact ⟨n, hn, hi⟩
  | cancel task =>
    refine ⟨n, ?_, hi⟩
    rw [apply, cancel]
    split
    · split <;> exact hn
    · exact hn
  | release space => exact hfree space _
  | wake space => exact hfree space _
  | respond space answers => exact hu space _ fun _ => rfl
  | setClock clock => exact ⟨n, hn, hi⟩
  | setWorld world => exact ⟨n, hn, hi⟩
  | setInterval space interval =>
    by_cases hs : space = id
    · subst hs
      cases interval with
      | none => exact ⟨{ n with interval := none }, by simp [apply, update, hn], rfl⟩
      | some i => exact absurd rfl (he i)
    · exact ⟨n, by simp [apply, update, hs, hn], hi⟩

theorem Settled.move {id : Nat} {l : Loop} (h : Settled id l) (hc : Coherent l) {m : Move}
    (hm : ∀ i, m ≠ .event (.setInterval id (some i))) :
    Settled id (l.move m) ∧ launched id (l.asked m) = [] ∧
      ∀ v, l.visit? m = some v → v.fetch.space ≠ id := by
  have hd : Settled id l.dequeue := h
  cases l.course m with
  | task job rest s turn ready stretch move asked visit =>
    refine ⟨?_, ?_, fun v hv => ?_⟩
    · rw [move]
      exact proceed_keeps (fun _ target call h => h.ask target call) (fun _ _ _ h => h)
        (fun _ _ h => h) hd _ _ _
    · rw [asked, launched, List.flatMap_eq_nil_iff]
      intro a ha
      have hs := asking_keeps (P := Settled id) (fun _ target call h => h.ask target call) hd
        _ _ _ _ a ha
      rw [hs.launch, List.map_nil]
    · rw [visit] at hv; cases hv
  | fetch v n rest turn ready found space progress clock move asked visit =>
    have hmem := (findFetch?_eq_some found).1
    obtain ⟨n', hn', hi, hs⟩ := h
    have hv : v.fetch.space ≠ id := fun he => by
      have hf := mem_flights.2 ⟨hmem, he⟩
      rw [hc.flights_eq_nil hn' hi] at hf
      cases hf
    refine ⟨⟨n', ?_, hi, hs⟩, by rw [asked]; rfl, fun v' hv' => ?_⟩
    · rw [move, runFetch_get? (l := l.dequeue) found space, if_neg hv]
      exact hn'
    · cases visit.symm.trans hv'
      exact hv
  | quiet move asked visit fetches turn =>
    refine ⟨?_, by rw [asked]; rfl, fun v hv => by rw [visit] at hv; cases hv⟩
    obtain ⟨n, hn, hi, hs, hint⟩ := h
    have hnext : ∃ n', (l.move m).service.get? id = some n' ∧ n'.interval = none := by
      cases m with
      | turn => exact ⟨n, by rw [(turn rfl).1, hn], hint⟩
      | event e => exact apply_interval hn hint fun i he => hm i (he ▸ rfl)
    obtain ⟨n', hn', hint'⟩ := hnext
    obtain ⟨n₀, hn₀, hcore⟩ := move.exists_core hn'
    cases hn.symm.trans hn₀
    obtain ⟨-, -, -, hca, hin, -⟩ := Namespace.core_eq_iff.1 hcore
    exact ⟨n', hn', by rw [← hin, hi], by rw [← hca, hs], hint'⟩

theorem Settled.run {id : Nat} {l : Loop} (h : Settled id l) (hc : Coherent l) {ms : List Move}
    (hm : ∀ i, Move.event (.setInterval id (some i)) ∉ ms) :
    launched id (l.calls ms) = [] ∧ ∀ v ∈ l.visits ms, v.fetch.space ≠ id := by
  induction ms generalizing l with
  | nil => exact ⟨rfl, fun v hv => absurd hv List.not_mem_nil⟩
  | cons m ms ih =>
    obtain ⟨hs, hl, hv⟩ := h.move hc (m := m) fun i he => hm i (he ▸ List.mem_cons_self)
    obtain ⟨hl', hv'⟩ := ih hs (hc.move m) fun i hi => hm i (List.mem_cons_of_mem m hi)
    rw [launched] at hl hl'
    refine ⟨?_, fun v hmem => ?_⟩
    · rw [calls, launched, List.flatMap_append, hl, hl', List.append_nil]
    · rw [visits, List.mem_append, Option.mem_toList] at hmem
      exact hmem.elim (hv v) (hv' v)

/-- When the fetches of a namespace start. Each call starts the one that is wanted, or none; what
is there after a move was there before or has been started by one of its calls; all that were
started have been started by calls, and each comes to the backend once. While one is in flight,
none is started and the backend is asked nothing new; after a success and without an interval, it
is asked nothing at all. -/
structure Demand (l : Loop) (ms : List Move) (id : Nat) (n : Namespace) : Prop where
  call : ∀ m a n', a ∈ (l.run ms).asked m → a.loop.locate a.target = .ok id →
    a.loop.service.get? id = some n' →
      (a.loop.ask a.target a.call).1.fetches = a.loop.fetches ++ a.loop.launch a.target a.call ∧
        a.loop.launch a.target a.call =
          if a.call.reads ∧ n'.inFlight = none ∧
              (n'.cached = none ∨ n'.isStale a.loop.clock = true) then
            [⟨id, n'.started, n'.cached.isSome, .arriving, []⟩]
          else []
  next : ∀ m, ∀ f ∈ ((l.run ms).move m).flights id,
    (∃ g ∈ (l.run ms).flights id, g.number = f.number) ∨
      f.number ∈ launched id ((l.run ms).asked m)
  launched : launched id (l.calls ms) = List.range n.started
  arrived : arrived id (l.visits ms) ++
    (((l.run ms).flights id).filter (·.stage = .arriving)).map Fetch.number = List.range n.started
  busy : ∀ k ms', n.inFlight = some k → k ∉ landed id ((l.run ms).landings ms') →
    Loop.launched id ((l.run ms).calls ms') = [] ∧
      ∀ v ∈ (l.run ms).visits ms', v.fetch.space = id → v.fetch.number = k
  done : ∀ m x s n' ms', (l.run ms).landing? id m = some x → x.outcome = .ok s →
    ((l.run ms).move m).service.get? id = some n' → n'.interval = none →
      (∀ i, Move.event (.setInterval id (some i)) ∉ ms') →
        Loop.launched id (((l.run ms).move m).calls ms') = [] ∧
          ∀ v ∈ ((l.run ms).move m).visits ms', v.fetch.space ≠ id

theorem demand {l : Loop} (hf : l.IsFresh) (ms : List Move) {id : Nat} {n : Namespace}
    (hn : (l.run ms).service.get? id = some n) : Demand l ms id n := by
  have hc : Coherent (l.run ms) := (Coherent.fresh hf).run ms
  have ha : Accounts (l.visits ms) (l.run ms) := (Accounts.fresh hf).run (.fresh hf) ms
  refine ⟨fun m a n' hm hl hn' => ⟨ask_fetches _ _ _, ?_⟩, fun m f hm => ?_, ?_,
    (ha id n hn).arrived, fun k ms' hi hk => ?_, fun m x s n' ms' hx hs hn' hi hm => ?_⟩
  · rw [launch, hl]
    simp only [hn']
    rfl
  · exact ha.flight_move hc hm
  · have hr := l.run_started ms id
    have h₀ : l.started id = 0 := by
      rw [started]
      cases hs : l.service.get? id with
      | none => rfl
      | some n₀ => exact (hf.service.get? hs).started
    rw [h₀, started_eq hn] at hr
    exact hr
  · obtain ⟨⟨n', hn', hi'⟩, hv⟩ := hc.busy hn hi hk
    refine ⟨?_, hv⟩
    -- The fetch in flight is the one that was started last, before these moves and after them.
    have hlast : ∀ {l' : Loop} {n₁}, Coherent l' → l'.service.get? id = some n₁ →
        n₁.inFlight = some k → l'.started id = k + 1 := by
      intro l' n₁ hc' hn₁ hi₁
      obtain ⟨f, hfl, rfl⟩ := hc'.exists_flight hn₁ hi₁
      obtain ⟨n₂, hn₂, hst, -⟩ := hc'.home id f (hfl ▸ List.mem_singleton.2 rfl)
      rw [started_eq hn₂, hst]
    have hr := (l.run ms).run_started ms' id
    rw [hlast hc hn hi, hlast (hc.run ms') hn' hi'] at hr
    exact List.append_right_eq_self.1 hr
  · refine Settled.run ⟨n', hn', ?_, ?_, hi⟩ (hc.move m) hm
    · exact hc.slot_of_landing hx hn'
    · rw [cached_of_success hf hn' hx hs]; rfl

theorem demand_recovered : ∃ n, (held.run recovered).service.get? 0 = some n ∧
    launched 0 (held.calls recovered) = [0, 1] ∧ arrived 0 (held.visits recovered) = [0, 1] ∧
    (held.calls recovered).map (fun a => (a.task, a.index)) = [(0, 0), (1, 0), (2, 0)] ∧
    Demand held recovered 0 n :=
  ⟨_, rfl, rfl, rfl, rfl, demand held_isFresh recovered rfl⟩

end LiveConfig.Loop
