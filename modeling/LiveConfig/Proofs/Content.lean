import LiveConfig.Proofs.SingleFlight
set_option autoImplicit false

/-!
What a namespace has cached is what its last successful fetch brought, with the time at which it
ended. The fetch whose snapshot is read never goes back to an earlier one.
-/
namespace LiveConfig.Loop

theorem landings_append (l : Loop) (ms ms' : List Move) :
    l.landings (ms ++ ms') = l.landings ms ++ (l.run ms).landings ms' := by simp [landings]

/-- What a namespace has cached after a run: the snapshot and the end of the fetch that succeeded
last. The next move changes this if a fetch of the namespace succeeds in it, and in no other case;
all calls that are made in it find this; and no later fetch that leaves a snapshot is an earlier
one. -/
structure Content (l : Loop) (ms : List Move) (id : Nat) (n : Namespace) : Prop where
  now : n.cached = (lastSuccess id (l.landings ms)).bind (Landing.kept? id)
  success : ∀ m n' x s, ((l.run ms).move m).service.get? id = some n' →
    (l.run ms).landing? id m = some x → x.outcome = .ok s →
      n'.cached = some ⟨s, (l.run ms).clock⟩
  other : ∀ m n', ((l.run ms).move m).service.get? id = some n' →
    (∀ x s, (l.run ms).landing? id m = some x → x.outcome ≠ .ok s) → n'.cached = n.cached
  seen : ∀ m a n', a ∈ (l.run ms).asked m → a.loop.service.get? id = some n' → n'.cached = n.cached
  forward : ∀ ms' x, lastSuccess id (l.landings ms) = some x →
    ∃ y, lastSuccess id (l.landings (ms ++ ms')) = some y ∧ x.fetch.number ≤ y.fetch.number

theorem landings_one (l : Loop) (m : Move) :
    l.landings [m] = ((l.visit? m).bind Visited.landing?).toList := by
  cases hv : l.visit? m with
  | none => simp [landings, visits, hv]
  | some v => cases hx : v.landing? <;> simp [landings, visits, hv, hx]

theorem landings_filter (l : Loop) (id : Nat) (m : Move) :
    (l.landings [m]).filter (·.fetch.space = id) = (l.landing? id m).toList := by
  rw [landings_one, landing?, Option.toList_filter]

theorem landed_one (l : Loop) (id : Nat) (m : Move) :
    landed id (l.landings [m]) = (l.landing? id m).toList.map (·.fetch.number) := by
  rw [landed, landings_filter]

theorem lastSuccess_of_success {l : Loop} {id : Nat} {m : Move} {x : Landing} {s : Snapshot}
    (hx : l.landing? id m = some x) (hs : x.outcome = .ok s) :
    lastSuccess id (l.landings [m]) = some x := by
  have hm : l.landings [m] = [x] := by
    rw [landings_one]
    rw [landing?, Option.filter_eq_some_iff] at hx
    rw [hx.1]
    rfl
  have hi : x.fetch.space = id := by
    rw [landing?, Option.filter_eq_some_iff] at hx
    simpa using hx.2
  rw [hm]
  simp [lastSuccess, Landing.kept?, hi, hs, Except.toOption]

theorem lastSuccess_of_other {l : Loop} {id : Nat} {m : Move}
    (h : ∀ x s, l.landing? id m = some x → x.outcome ≠ .ok s) :
    lastSuccess id (l.landings [m]) = none := by
  rw [landings_one]
  cases hv : (l.visit? m).bind Visited.landing? with
  | none => rfl
  | some x =>
    by_cases hs : x.fetch.space = id
    · have hx : l.landing? id m = some x := by rw [landing?, hv]; simp [Option.filter, hs]
      cases ho : x.outcome with
      | ok s => exact absurd ho (h x s hx)
      | error f => simp [lastSuccess, Landing.kept?, hs, ho, Except.toOption]
    · simp [lastSuccess, Landing.kept?, hs]

theorem landing_found {l : Loop} {id : Nat} {m : Move} {x : Landing}
    (h : l.landing? id m = some x) : x.fetch ∈ l.flights id ∧ x.clock = l.clock := by
  rw [landing?, Option.filter_eq_some_iff] at h
  obtain ⟨hb, hi⟩ := h
  obtain ⟨v, hv, hx⟩ := Option.bind_eq_some_iff.1 hb
  obtain ⟨hm, hcl⟩ := visit_found hv
  cases hp : v.progress with
  | waits next => rw [Accounted.landing_of_waits hp] at hx; cases hx
  | ends outcome =>
    rw [Accounted.landing_of_ends hp] at hx
    cases hx
    exact ⟨mem_flights.2 ⟨hm, by simpa using hi⟩, hcl⟩

/-- A call finds whatever the start of a fetch does not change as it was before the move. -/
theorem asked_map (l : Loop) (m : Move) (id : Nat) {α : Type} {g : Namespace → α}
    (hg : ∀ n, g n.startFetch = g n) :
    ∀ a ∈ l.asked m, (a.loop.service.get? id).map g = (l.service.get? id).map g := by
  cases l.course m with
  | task job rest s turn ready stretch move asked visit =>
    rw [asked]
    refine asking_keeps (l := l.dequeue) (P := fun l' => (l'.service.get? id).map g =
      (l.service.get? id).map g) (fun l' target call h => ?_) rfl _ _ _ _
    rw [ask_map l' target call id hg, h]
  | fetch v n rest turn ready found space progress clock move asked visit => simp [asked]
  | quiet move asked visit => simp [asked]

theorem landed_lt {id : Nat} {xs ys : List Landing} {k : Nat} {ns : List Nat}
    (h : landed id (xs ++ ys) ++ ns = List.range k) {x y : Landing} (hx : x ∈ xs) (hy : y ∈ ys)
    (hxs : x.fetch.space = id) (hys : y.fetch.space = id) : x.fetch.number < y.fetch.number := by
  have hp : (landed id (xs ++ ys) ++ ns).Pairwise (· < ·) := h ▸ List.pairwise_lt_range
  rw [landed_append] at hp
  have hl := (List.pairwise_append.1 (List.pairwise_append.1 hp).1).2.2
  have hm : ∀ (zs : List Landing) (z : Landing), z ∈ zs → z.fetch.space = id →
      z.fetch.number ∈ landed id zs := fun zs z hz hi =>
    List.mem_map.2 ⟨z, List.mem_filter.2 ⟨hz, by simpa using hi⟩, rfl⟩
  exact hl _ (hm xs x hx hxs) _ (hm ys y hy hys)

theorem landing_unique {id : Nat} {xs : List Landing} {k : Nat} {ns : List Nat}
    (h : landed id xs ++ ns = List.range k) {x y : Landing} (hx : x ∈ xs) (hy : y ∈ xs)
    (hxs : x.fetch.space = id) (hys : y.fetch.space = id) (he : x.fetch.number = y.fetch.number) :
    x = y := by
  obtain ⟨pre, post, rfl⟩ := List.append_of_mem hx
  rcases List.mem_append.1 hy with hy | hy
  · have hlt := landed_lt h hy List.mem_cons_self hys hxs
    omega
  · rcases List.mem_cons.1 hy with rfl | hy
    · rfl
    · rw [show pre ++ x :: post = (pre ++ [x]) ++ post by simp] at h
      have hlt := landed_lt h (List.mem_append_right _ (List.mem_singleton.2 rfl)) hy hxs hys
      omega

theorem lastSuccess_mem {id : Nat} {xs : List Landing} {x : Landing}
    (h : lastSuccess id xs = some x) : x ∈ xs ∧ x.fetch.space = id := by
  have hm := List.mem_filter.1 (List.mem_of_getLast? h)
  refine ⟨hm.1, ?_⟩
  have hk := hm.2
  rw [Landing.kept?] at hk
  split at hk
  next hi => exact hi
  next => cases hk

theorem cached_move {l : Loop} (hf : l.IsFresh) (ms : List Move) (m : Move) {id : Nat}
    {n : Namespace} (hn : ((l.run ms).move m).service.get? id = some n) :
    n.cached = ((lastSuccess id ((l.run ms).landings [m])).or
      (lastSuccess id (l.landings ms))).bind (Landing.kept? id) := by
  have hr : (l.run (ms ++ [m])).service.get? id = some n := by rw [run_append]; exact hn
  have hc := ((Accounts.fresh hf).run (.fresh hf) (ms ++ [m]) id n hr).cached
  change n.cached = (lastSuccess id (l.landings (ms ++ [m]))).bind _ at hc
  rwa [landings_append, lastSuccess_append] at hc

theorem cached_of_success {l : Loop} (hf : l.IsFresh) {ms : List Move} {m : Move} {id : Nat}
    {n : Namespace} (hn : ((l.run ms).move m).service.get? id = some n) {x : Landing} {s : Snapshot}
    (hx : (l.run ms).landing? id m = some x) (hs : x.outcome = .ok s) :
    n.cached = some ⟨s, (l.run ms).clock⟩ := by
  obtain ⟨hm, hcl⟩ := landing_found hx
  rw [cached_move hf ms m hn, lastSuccess_of_success hx hs, Option.some_or, Option.bind_some,
    Landing.kept?, if_pos (mem_flights.1 hm).2, hs, hcl]
  rfl

theorem lastSuccess_of_mem {id : Nat} {xs : List Landing} {x : Landing} {s : Snapshot} (hx : x ∈ xs)
    (hi : x.fetch.space = id) (hs : x.outcome = .ok s) :
    ∃ y s', lastSuccess id xs = some y ∧ y.fetch.space = id ∧ y.outcome = .ok s' := by
  have hm : x ∈ xs.filter fun x => (x.kept? id).isSome :=
    List.mem_filter.2 ⟨hx, by simp [Landing.kept?, hi, hs, Except.toOption]⟩
  have hl : ∃ y, lastSuccess id xs = some y := by
    rw [lastSuccess, ← Option.isSome_iff_exists, List.getLast?_isSome]
    exact List.ne_nil_of_mem hm
  obtain ⟨y, hy⟩ := hl
  have hk := (List.mem_filter.1 (List.mem_of_getLast? hy)).2
  obtain ⟨-, hi'⟩ := lastSuccess_mem hy
  rw [Landing.kept?, if_pos hi'] at hk
  cases ho : y.outcome with
  | ok s' => exact ⟨y, s', hy, hi', ho⟩
  | error f => rw [ho] at hk; cases hk

theorem content_of_run {l : Loop} (hf : l.IsFresh) (ms : List Move) {id : Nat} {n : Namespace}
    (hn : (l.run ms).service.get? id = some n) : Content l ms id n := by
  have ha := fun ms => (Accounts.fresh hf).run (.fresh hf) ms id
  have hnow := (ha ms n hn).cached
  refine ⟨hnow, fun m n' x s hn' hx hs => cached_of_success hf hn' hx hs, fun m n' hn' ho => ?_,
    fun m a n' hm hn' => ?_, fun ms' x hx => ?_⟩
  · rw [cached_move hf ms m hn', lastSuccess_of_other ho, Option.none_or]
    exact hnow.symm
  · have hc := asked_map (l.run ms) m id (g := Namespace.cached) (fun _ => rfl) a hm
    rw [hn, hn'] at hc
    exact Option.some.inj hc
  · rw [landings_append, lastSuccess_append, hx]
    cases hy : lastSuccess id ((l.run ms).landings ms') with
    | none => exact ⟨x, rfl, Nat.le_refl _⟩
    | some y =>
      obtain ⟨hxm, hxs⟩ := lastSuccess_mem hx
      obtain ⟨hym, hys⟩ := lastSuccess_mem hy
      have hsome : ((l.run (ms ++ ms')).service.get? id).isSome := by
        rw [run_append, run_isSome, hn]; rfl
      obtain ⟨n', hn'⟩ := Option.isSome_iff_exists.1 hsome
      have hl := (ha (ms ++ ms') n' hn').landed
      change landed id (l.landings (ms ++ ms')) ++ _ = _ at hl
      rw [landings_append] at hl
      exact ⟨y, rfl, Nat.le_of_lt (landed_lt hl hxm hym hxs hys)⟩

def recovered : List Move :=
  waiting ++ [.event (.respond 0 [.error .rejected, .ok .empty]), .event (.release 0), .turn, .turn,
    .turn, .turn, .turn, .event (.setClock 2000), .event (.begin 2 (.space 0) [.all]), .turn, .turn,
    .event (.release 0), .turn]

theorem content_of_run_recovered : ∃ n, (held.run recovered).service.get? 0 = some n ∧
    n.cached = some ⟨.empty, 2000⟩ ∧ landed 0 (held.landings recovered) = [0, 1] ∧
    Content held recovered 0 n :=
  ⟨_, rfl, rfl, rfl, content_of_run held_isFresh recovered rfl⟩

end LiveConfig.Loop
