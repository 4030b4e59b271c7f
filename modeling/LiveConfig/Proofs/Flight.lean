import LiveConfig.Proofs.Landing
set_option autoImplicit false

/-!
Single flight. The slot of a namespace and the fetches that have not ended agree after every move,
whatever tasks, backends and clocks do.
-/
namespace LiveConfig.Loop

def flights (l : Loop) (id : Nat) : List Fetch := l.fetches.filter (·.space = id)

theorem mem_flights {l : Loop} {id : Nat} {f : Fetch} :
    f ∈ l.flights id ↔ f ∈ l.fetches ∧ f.space = id := by simp [flights]

/-- A slot holds the number of the one fetch of its namespace that has not ended. It is the fetch
that was started last, and a refresh just when there is a snapshot. -/
structure Coherent (l : Loop) : Prop where
  slot : ∀ id n, l.service.get? id = some n → (l.flights id).map Fetch.number = n.inFlight.toList
  home : ∀ id f, f ∈ l.flights id → ∃ n, l.service.get? id = some n ∧ n.started = f.number + 1 ∧
    f.background = n.cached.isSome

theorem flights_map (l : Loop) (id : Nat) {α : Type} (g : Fetch → α) :
    ((l.flights id).map fun f => (f.space, g f)) =
      (l.fetches.map fun f => (f.space, g f)).filter (·.1 = id) := by
  rw [flights, List.filter_map]
  rfl

theorem flights_map_congr {l l' : Loop} {α : Type} {g : Fetch → α}
    (h : l'.fetches.map (fun f => (f.space, g f)) = l.fetches.map fun f => (f.space, g f))
    (id : Nat) : (l'.flights id).map g = (l.flights id).map g := by
  have hf := flights_map l' id g
  rw [h, ← flights_map l id g] at hf
  have hm := congrArg (List.map Prod.snd) hf
  rwa [List.map_map, List.map_map] at hm

theorem startFetch_get? {l : Loop} {id : Nat} {n : Namespace} (hn : l.service.get? id = some n)
    (background : Bool) (j : Nat) : (l.startFetch id n background).service.get? j =
      if id = j then some n.startFetch else l.service.get? j := by
  simp only [startFetch, update, Service.get?_update]
  split
  next h => rw [← h, hn, Option.map_some]
  next => rfl

theorem startFetch_flights (l : Loop) (id : Nat) (n : Namespace) (background : Bool) (j : Nat) :
    (l.startFetch id n background).flights j =
      l.flights j ++ if id = j then [⟨id, n.started, background, .arriving, []⟩] else [] := by
  simp only [flights, startFetch, update, List.filter_append]
  by_cases h : id = j <;> simp [h]

theorem replaceFetch_flights (l : Loop) (space number : Nat) {f : Fetch → Fetch}
    (hf : ∀ g, (f g).space = g.space) (id : Nat) :
    (l.replaceFetch space number f).flights id = (l.flights id).map fun g =>
      if g.space = space ∧ g.number = number then f g else g := by
  rw [flights, replaceFetch, List.filter_map, flights]
  refine congrArg _ (List.filter_congr fun g _ => ?_)
  simp only [Function.comp_apply]
  split
  · rw [hf]
  · rfl

theorem removeFetch_flights (l : Loop) (space number id : Nat) :
    (l.removeFetch space number).flights id =
      (l.flights id).filter fun g => ¬(g.space = space ∧ g.number = number) := by
  simp only [flights, removeFetch, List.filter_filter, Bool.and_comm]

namespace Coherent
variable {l : Loop}

theorem flights_eq_nil (h : Coherent l) {id : Nat} {n : Namespace}
    (hn : l.service.get? id = some n) (hi : n.inFlight = none) : l.flights id = [] := by
  have hs := h.slot id n hn
  rw [hi] at hs
  exact List.map_eq_nil_iff.1 hs

theorem flights_eq_singleton (h : Coherent l) {id : Nat} {f : Fetch} (hf : f ∈ l.flights id) :
    l.flights id = [f] := by
  obtain ⟨n, hn, -⟩ := h.home id f hf
  have hl : (l.flights id).length = n.inFlight.toList.length := by
    rw [← h.slot id n hn, List.length_map]
  cases hi : n.inFlight with
  | none => rw [h.flights_eq_nil hn hi] at hf; cases hf
  | some k =>
    rw [hi] at hl
    obtain ⟨g, hg⟩ := List.length_eq_one_iff.1 hl
    rw [hg, List.mem_singleton] at hf
    rw [hg, hf]

theorem exists_flight (h : Coherent l) {id k : Nat} {n : Namespace}
    (hn : l.service.get? id = some n) (hi : n.inFlight = some k) :
    ∃ f, l.flights id = [f] ∧ f.number = k := by
  have hs := h.slot id n hn
  rw [hi] at hs
  exact List.map_eq_singleton_iff.1 hs

theorem inFlight_eq (h : Coherent l) {id : Nat} {f : Fetch} (hf : f ∈ l.flights id) {n : Namespace}
    (hn : l.service.get? id = some n) : n.inFlight = some f.number := by
  have hs := h.slot id n hn
  rw [h.flights_eq_singleton hf] at hs
  cases hi : n.inFlight with
  | none => rw [hi] at hs; cases hs
  | some k => rw [hi] at hs; exact congrArg some (List.cons.inj hs).1.symm

theorem eq_of_space (h : Coherent l) {f g : Fetch} (hf : f ∈ l.fetches) (hg : g ∈ l.fetches)
    (hs : g.space = f.space) : g = f := by
  have hm : g ∈ l.flights f.space := mem_flights.2 ⟨hg, hs⟩
  rw [h.flights_eq_singleton (mem_flights.2 ⟨hf, rfl⟩)] at hm
  exact List.mem_singleton.1 hm

theorem setStage_flights (h : Coherent l) {f : Fetch} (hf : f ∈ l.fetches) (next : Stage)
    (id : Nat) :
    (l.replaceFetch f.space f.number fun g => { g with stage := next }).flights id =
      if f.space = id then [{ f with stage := next }] else l.flights id := by
  have hstage : ∀ g : Fetch, ({ g with stage := next } : Fetch).space = g.space := fun _ => rfl
  rw [replaceFetch_flights l f.space f.number hstage]
  by_cases hi : f.space = id
  · have hm : f ∈ l.flights id := mem_flights.2 ⟨hf, hi⟩
    rw [if_pos hi, h.flights_eq_singleton hm]
    simp
  · rw [if_neg hi]
    refine (List.map_congr_left fun g hg => ?_).trans (List.map_id _)
    have hs : g.space = id := (mem_flights.1 hg).2
    exact if_neg fun hk => hi (hk.1.symm.trans hs)

theorem removeFetch_flights (h : Coherent l) {f : Fetch} (hf : f ∈ l.fetches) (id : Nat) :
    (l.removeFetch f.space f.number).flights id = if f.space = id then [] else l.flights id := by
  rw [Loop.removeFetch_flights]
  by_cases hi : f.space = id
  · have hm : f ∈ l.flights id := mem_flights.2 ⟨hf, hi⟩
    rw [if_pos hi, h.flights_eq_singleton hm]
    simp
  · rw [if_neg hi]
    refine List.filter_eq_self.2 fun g hg => ?_
    simp [show g.space ≠ f.space from fun he => hi (he.symm.trans (mem_flights.1 hg).2)]

theorem fresh (hf : l.IsFresh) : Coherent l := by
  have hnil : ∀ id, l.flights id = [] := fun id => by rw [flights, hf.fetches]; rfl
  refine ⟨fun id n hn => ?_, fun id f hm => ?_⟩
  · rw [hnil, (hf.service.get? hn).inFlight]; rfl
  · rw [hnil] at hm; cases hm

theorem quiet {l' : Loop} (h : Coherent l) (hq : Quiet l l') : Coherent l' := by
  have hk := flights_map_congr (g := fun f => (f.number, f.background)) hq.key
  refine ⟨fun id n' hn' => ?_, fun id f' hf' => ?_⟩
  · obtain ⟨n, hn, hc⟩ := hq.exists_core hn'
    obtain ⟨-, -, -, -, hi, -⟩ := Namespace.core_eq_iff.1 hc
    have hm := congrArg (List.map Prod.fst) (hk id)
    rw [List.map_map, List.map_map] at hm
    rw [← hi, ← h.slot id n hn]
    exact hm
  · have hm := List.mem_map_of_mem (f := fun f => (f.number, f.background)) hf'
    rw [hk id] at hm
    obtain ⟨f, hf, he⟩ := List.mem_map.1 hm
    simp only [Prod.mk.injEq] at he
    obtain ⟨n, hn, hs, hb⟩ := h.home id f hf
    obtain ⟨n', hn', hc⟩ := hq.symm.exists_core hn
    obtain ⟨-, -, -, hca, -, hst, -⟩ := Namespace.core_eq_iff.1 hc
    exact ⟨n', hn', by rw [hst, hs, he.1], by rw [← he.2, hb, hca]⟩

theorem startFetch (h : Coherent l) {id : Nat} {n : Namespace}
    (hn : l.service.get? id = some n) (hi : n.inFlight = none) :
    Coherent (l.startFetch id n n.cached.isSome) := by
  have hg := startFetch_get? hn n.cached.isSome
  have hfl := l.startFetch_flights id n n.cached.isSome
  refine ⟨fun j m hm => ?_, fun j f hf => ?_⟩
  · rw [hg] at hm
    rw [hfl, List.map_append]
    by_cases hj : id = j
    · subst hj
      rw [if_pos rfl] at hm
      cases hm
      rw [h.flights_eq_nil hn hi, if_pos rfl]
      rfl
    · rw [if_neg hj] at hm
      rw [h.slot j m hm, if_neg hj, List.map_nil, List.append_nil]
  · rw [hfl, List.mem_append] at hf
    by_cases hj : id = j
    · subst hj
      rw [h.flights_eq_nil hn hi, if_pos rfl, List.mem_singleton] at hf
      rcases hf with hf | rfl
      · cases hf
      · exact ⟨n.startFetch, by rw [hg, if_pos rfl], rfl, rfl⟩
    · rw [if_neg hj] at hf
      obtain ⟨m, hm, hs, hb⟩ := h.home j f (hf.resolve_right (List.not_mem_nil))
      exact ⟨m, by rw [hg, if_neg hj, hm], hs, hb⟩

theorem ask (h : Coherent l) (target : Target) (call : Call) :
    Coherent (l.ask target call).1 := by
  obtain ⟨-, ha⟩ | ⟨id, n, notice, -, hn, -, hw, -, ha⟩ := l.ask_cases target call
  · rwa [ha]
  · rw [ha]
    have hs : Coherent (l.say notice) := h.quiet (.of_eq rfl rfl)
    exact hs.startFetch hn hw.1

section RunFetch
variable {f : Fetch} {n : Namespace}

theorem runFetch_flights (h : Coherent l) (hf : l.findFetch? f.space f.number = some f)
    (hn : l.service.get? f.space = some n) (id : Nat) :
    (l.runFetch f.space f.number).flights id =
      if f.space = id then
        f.turn (n.backend.advance l.world f.number f.stage n.storeId).value.2
      else l.flights id := by
  have hmem := (findFetch?_eq_some hf).1
  have hv := h.quiet (.visited l f.space (n.backend.advance l.world f.number f.stage n.storeId))
  cases hp : (n.backend.advance l.world f.number f.stage n.storeId).value.2 with
  | waits next =>
    rw [runFetch_waits hf hn hp]
    exact hv.setStage_flights hmem next id
  | ends outcome =>
    rw [runFetch_ends hf hn hp, flights,
      finish_fetches outcome ((visited_get? hn _ f.space).trans (if_pos rfl))]
    exact hv.removeFetch_flights hmem id

theorem runFetch (h : Coherent l) (hf : l.findFetch? f.space f.number = some f)
    (hn : l.service.get? f.space = some n) : Coherent (l.runFetch f.space f.number) := by
  have hg := runFetch_get? hf hn
  have hfl := h.runFetch_flights hf hn
  have hmem := mem_flights.2 ⟨(findFetch?_eq_some hf).1, rfl⟩
  obtain ⟨m, hm, hs, hb⟩ := h.home f.space f hmem
  cases hn.symm.trans hm
  -- The slot names this fetch; it stays there while the fetch waits, and goes with it.
  have hi := h.inFlight_eq hmem hn
  refine ⟨fun id m hid => ?_, fun id g hgm => ?_⟩
  · rw [hg] at hid
    rw [hfl]
    by_cases he : f.space = id
    · rw [if_pos he] at hid ⊢
      cases hid
      cases (n.backend.advance l.world f.number f.stage n.storeId).value.2 with
      | waits next => exact congrArg Option.toList hi.symm
      | ends outcome =>
        obtain ⟨reported, hl⟩ :=
          Namespace.land_eq { n with backend := _ } f.background outcome l.clock
        rw [Namespace.turn, hl]
        rfl
    · rw [if_neg he] at hid ⊢
      exact h.slot id m hid
  · rw [hfl] at hgm
    by_cases he : f.space = id
    · rw [if_pos he] at hgm
      rw [hg, if_pos he]
      cases hp : (n.backend.advance l.world f.number f.stage n.storeId).value.2 with
      | waits next =>
        rw [hp, Fetch.turn, List.mem_singleton] at hgm
        subst hgm
        exact ⟨_, rfl, hs, hb⟩
      | ends outcome => rw [hp] at hgm; cases hgm
    · rw [if_neg he] at hgm
      rw [hg, if_neg he]
      exact h.home id g hgm

end RunFetch

theorem move (h : Coherent l) (m : Move) : Coherent (l.move m) :=
  move_keeps (fun _ _ hs h => h.quiet hs.toQuiet) (fun _ target call h => h.ask target call)
    (fun _ _ _ hf hn h => h.runFetch hf hn) h m

theorem run (h : Coherent l) (ms : List Move) : Coherent (l.run ms) :=
  run_keeps (fun _ m h => h.move m) h ms

end Coherent

end LiveConfig.Loop
