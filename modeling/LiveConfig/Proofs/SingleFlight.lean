import LiveConfig.Proofs.Account
set_option autoImplicit false

/-!
At every moment one fetch of a namespace goes on, or none, and the slot says which.
-/
namespace LiveConfig.Loop

structure OneFlight (l : Loop) (id : Nat) (n : Namespace) : Prop where
  atMostOne : (l.flights id).length ≤ 1
  slot : n.isRefreshing = true ↔ ∃ f ∈ l.fetches, f.space = id
  named : ∀ f ∈ l.fetches, f.space = id → n.inFlight = some f.number

theorem Coherent.oneFlight {l : Loop} (h : Coherent l) {id : Nat} {n : Namespace}
    (hn : l.service.get? id = some n) : OneFlight l id n := by
  have hs := h.slot id n hn
  refine ⟨?_, ⟨fun hr => ?_, ?_⟩, fun f hf he => h.inFlight_eq (mem_flights.2 ⟨hf, he⟩) hn⟩
  · have hl := congrArg List.length hs
    rw [List.length_map] at hl
    rw [hl]
    cases n.inFlight <;> simp
  · obtain ⟨k, hk⟩ := Option.isSome_iff_exists.1 hr
    obtain ⟨f, hf, -⟩ := h.exists_flight hn hk
    have hm : f ∈ l.flights id := by rw [hf]; exact List.mem_singleton.2 rfl
    exact ⟨f, mem_flights.1 hm⟩
  · rintro ⟨f, hf, he⟩
    have hi := h.inFlight_eq (mem_flights.2 ⟨hf, he⟩) hn
    rw [Namespace.isRefreshing, hi]
    rfl

def landing? (l : Loop) (id : Nat) (m : Move) : Option Landing :=
  ((l.visit? m).bind Visited.landing?).filter (·.fetch.space = id)

theorem landing?_of_none {l : Loop} {m : Move} (h : l.visit? m = none) (id : Nat) :
    l.landing? id m = none := by rw [landing?, h]; rfl

theorem landing?_of_waits {l : Loop} {m : Move} {v : Visited} (h : l.visit? m = some v)
    {next : Stage} (hp : v.progress = .waits next) (id : Nat) : l.landing? id m = none := by
  rw [landing?, h, Option.bind_some, Accounted.landing_of_waits hp]
  rfl

theorem landing?_of_ends {l : Loop} {m : Move} {v : Visited} (h : l.visit? m = some v)
    {outcome : Except Fault Snapshot} (hp : v.progress = .ends outcome) :
    l.landing? v.fetch.space m = some ⟨v.fetch, outcome, v.clock⟩ := by
  rw [landing?, h, Option.bind_some, Accounted.landing_of_ends hp]
  simp

theorem landing?_of_ne {l : Loop} {m : Move} {v : Visited} (h : l.visit? m = some v) {id : Nat}
    (hs : v.fetch.space ≠ id) : l.landing? id m = none := by
  cases hp : v.progress with
  | waits next => exact landing?_of_waits h hp id
  | ends outcome =>
    rw [landing?, h, Option.bind_some, Accounted.landing_of_ends hp]
    simp [hs]

theorem ask_slot {l : Loop} {id k : Nat} (h : ∃ n, l.service.get? id = some n ∧ n.inFlight = some k)
    (target : Target) (call : Call) :
    ∃ n, (l.ask target call).1.service.get? id = some n ∧ n.inFlight = some k := by
  obtain ⟨n, hn, hi⟩ := h
  obtain ⟨-, ha⟩ | ⟨j, m, notice, -, hm, -, hw, -, ha⟩ := l.ask_cases target call
  · exact ⟨n, by rw [ha, hn], hi⟩
  · have hj : j ≠ id := by
      rintro rfl
      cases hn.symm.trans hm
      exact absurd (hi.symm.trans hw.1) (by simp)
    refine ⟨n, ?_, hi⟩
    rw [ha, startFetch_get? (show (l.say notice).service.get? j = some m from hm), if_neg hj]
    exact hn

/-- A slot is emptied in the move in which its fetch ends, and in no other. -/
theorem Coherent.slot_move {l : Loop} (h : Coherent l) {id k : Nat} {n n' : Namespace}
    (hn : l.service.get? id = some n) (hi : n.inFlight = some k) {m : Move}
    (hn' : (l.move m).service.get? id = some n') :
    (l.landing? id m = none ∧ n'.inFlight = some k) ∨
      ∃ x, l.landing? id m = some x ∧ x.fetch.number = k ∧ n'.inFlight = none := by
  cases l.course m with
  | task job rest s turn ready stretch move asked visit =>
    left
    rw [move] at hn'
    have hd : ∃ n, l.dequeue.service.get? id = some n ∧ n.inFlight = some k := ⟨n, hn, hi⟩
    obtain ⟨m', hm', hk⟩ : ∃ n, (l.dequeue.proceed s.task s.target s.answers s.calls).service.get?
        id = some n ∧ n.inFlight = some k :=
      proceed_keeps (P := fun l => ∃ n, l.service.get? id = some n ∧ n.inFlight = some k)
        (fun _ target call h => ask_slot h target call) (fun _ _ _ h => h) (fun _ _ h => h) hd _ _ _
    cases hn'.symm.trans hm'
    exact ⟨landing?_of_none visit id, hk⟩
  | fetch v m' rest turn ready found space progress clock move asked visit =>
    rw [move, runFetch_get? (l := l.dequeue) found space] at hn'
    by_cases he : v.fetch.space = id
    · rw [if_pos he] at hn'
      cases hn'
      subst he
      cases hn.symm.trans space
      -- The fetch that has its turn is the one that the slot names.
      have hmem := mem_flights.2 ⟨(findFetch?_eq_some found).1, rfl⟩
      have hk := Option.some.inj ((h.inFlight_eq hmem hn).symm.trans hi)
      rw [show n.backend.advance l.dequeue.world _ _ _ = n.backend.advance l.world _ _ _ from rfl,
        progress]
      cases hp : v.progress with
      | waits next => exact .inl ⟨landing?_of_waits visit hp _, hi⟩
      | ends outcome =>
        right
        refine ⟨_, landing?_of_ends visit hp, hk, ?_⟩
        obtain ⟨reported, hl⟩ :=
          Namespace.land_eq { n with backend := _ } v.fetch.background outcome l.dequeue.clock
        rw [Namespace.turn, hl]
    · left
      rw [if_neg he] at hn'
      cases hn.symm.trans hn'
      exact ⟨landing?_of_ne visit he, hi⟩
  | quiet move asked visit =>
    left
    obtain ⟨m', hm', hc⟩ := move.exists_core hn'
    cases hn.symm.trans hm'
    obtain ⟨-, -, -, -, hk, -⟩ := Namespace.core_eq_iff.1 hc
    exact ⟨landing?_of_none visit id, hk.symm.trans hi⟩

theorem visit_found {l : Loop} {m : Move} {v : Visited} (h : l.visit? m = some v) :
    v.fetch ∈ l.fetches ∧ v.clock = l.clock := by
  cases l.course m with
  | task job rest s turn ready stretch move asked visit => rw [visit] at h; cases h
  | fetch v' n rest turn ready found space progress clock move asked visit =>
    cases visit.symm.trans h
    exact ⟨(findFetch?_eq_some found).1, clock⟩
  | quiet move asked visit => rw [visit] at h; cases h

/-- What holds of a namespace's fetches after a run: there is one that has not ended, or none; all
that were started have ended in their order, but for that one; the slot is emptied in the move in
which its fetch ends, and in no other; the backend is visited by that fetch alone; and a double that
nobody else visits never counts two visits at once. -/
structure SingleFlight (l : Loop) (ms : List Move) (id : Nat) (n : Namespace) : Prop where
  now : OneFlight (l.run ms) id n
  all : landed id (l.landings ms) ++ ((l.run ms).flights id).map Fetch.number = List.range n.started
  next : ∀ m n' k, ((l.run ms).move m).service.get? id = some n' → n.inFlight = some k →
    ((l.run ms).landing? id m = none ∧ n'.inFlight = some k) ∨
      ∃ x, (l.run ms).landing? id m = some x ∧ x.fetch.number = k ∧ n'.inFlight = none
  visits : ∀ m v, (l.run ms).visit? m = some v → v.fetch.space = id →
    n.inFlight = some v.fetch.number
  apart : (∀ n₀, l.service.get? id = some n₀ → n₀.backend.Counts 0) →
    ∀ d, n.backend.double? = some d → d.inFlight ≤ 1 ∧ d.maxInFlight ≤ 1

theorem single_flight {l : Loop} (hf : l.IsFresh) (ms : List Move) {id : Nat} {n : Namespace}
    (hn : (l.run ms).service.get? id = some n) : SingleFlight l ms id n := by
  have hc : Coherent (l.run ms) := (Coherent.fresh hf).run ms
  have ha : Accounts (l.visits ms) (l.run ms) := (Accounts.fresh hf).run (.fresh hf) ms
  refine ⟨hc.oneFlight hn, (ha id n hn).landed, fun m n' k hn' hi => hc.slot_move hn hi hn',
    fun m v hv hs => ?_, fun hb d hd => ?_⟩
  · exact hc.inFlight_eq (mem_flights.2 ⟨(visit_found hv).1, hs⟩) hn
  · have hp : Apart id (l.run ms) := (Apart.fresh hf hb).run (.fresh hf) ms
    obtain ⟨hi, hm⟩ := hp n hn d hd
    have hle := hc.inside_le_one hn
    exact ⟨by omega, hm⟩

def held : Loop :=
  start (Service.empty.adopt (.fresh (.scripted (.fresh .hold false (.ofList [.ok .empty])))
    "store" (some 0) none)).1 .offline 1000

theorem held_isFresh : held.IsFresh :=
  start_isFresh (Service.empty_isFresh.adopt (Namespace.fresh_isFresh _ _ _ _)) _ _

def waiting : List Move :=
  [.event (.begin 0 (.space 0) [.get "KEY"]), .event (.begin 1 (.space 0) [.all]), .turn, .turn,
    .turn]

theorem single_flight_held : ∃ n, (held.run waiting).service.get? 0 = some n ∧
    n.inFlight = some 0 ∧ ((held.run waiting).flights 0).map Fetch.waiters = [[0, 1]] ∧
    SingleFlight held waiting 0 n :=
  ⟨_, rfl, rfl, rfl, single_flight held_isFresh waiting rfl⟩

end LiveConfig.Loop
