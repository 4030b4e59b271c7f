import LiveConfig.Proofs.Overlap
set_option autoImplicit false

/-!
The account of a namespace's fetches. Numbered in the order in which they were started, they come
to their backend once and end once, in this order; what is cached is what the last success left.
-/
namespace LiveConfig.Loop

def Landing.kept? (id : Nat) (x : Landing) : Option Cached :=
  if x.fetch.space = id then x.outcome.toOption.map fun s => ⟨s, x.clock⟩ else none

def lastSuccess (id : Nat) (xs : List Landing) : Option Landing :=
  (xs.filter fun x => (x.kept? id).isSome).getLast?

def landed (id : Nat) (xs : List Landing) : List Nat :=
  (xs.filter (·.fetch.space = id)).map (·.fetch.number)

def arrived (id : Nat) (vs : List Visited) : List Nat :=
  (vs.filter fun v => v.fetch.space = id ∧ v.fetch.stage = .arriving).map (·.fetch.number)

theorem arrived_concat (id : Nat) (vs : List Visited) (v : Visited) :
    arrived id (vs ++ [v]) = arrived id vs ++
      if v.fetch.space = id ∧ v.fetch.stage = .arriving then [v.fetch.number] else [] := by
  rw [arrived, List.filter_append, List.map_append, arrived]
  by_cases h : v.fetch.space = id ∧ v.fetch.stage = .arriving <;> simp [h]

theorem landed_append (id : Nat) (xs ys : List Landing) :
    landed id (xs ++ ys) = landed id xs ++ landed id ys := by simp [landed]

theorem lastSuccess_append (id : Nat) (xs ys : List Landing) :
    lastSuccess id (xs ++ ys) = (lastSuccess id ys).or (lastSuccess id xs) := by
  simp [lastSuccess]

theorem landings_concat (vs : List Visited) (v : Visited) :
    (vs ++ [v]).filterMap Visited.landing? =
      vs.filterMap Visited.landing? ++ v.landing?.toList := by
  cases h : v.landing? <;> simp [h]

/-- A namespace with the fetches that have not ended accounts for all turns so far. -/
structure Accounted (vs : List Visited) (id : Nat) (n : Namespace) (fs : List Fetch) : Prop where
  arrived : arrived id vs ++ (fs.filter (·.stage = .arriving)).map Fetch.number =
    List.range n.started
  landed : landed id (vs.filterMap Visited.landing?) ++ fs.map Fetch.number = List.range n.started
  cached : n.cached = (lastSuccess id (vs.filterMap Visited.landing?)).bind (Landing.kept? id)

namespace Accounted
variable {vs : List Visited} {id : Nat} {n : Namespace} {fs : List Fetch}

theorem fresh (h : n.IsFresh) : Accounted [] id n [] :=
  ⟨by rw [h.started]; rfl, by rw [h.started]; rfl, h.cached⟩

theorem still {n' : Namespace} {fs' : List Fetch} (h : Accounted vs id n fs)
    (hn : n'.started = n.started ∧ n'.cached = n.cached)
    (hf : fs'.map (fun f => (f.number, f.stage)) = fs.map fun f => (f.number, f.stage)) :
    Accounted vs id n' fs' := by
  have hs : ∀ gs : List Fetch, (gs.filter (·.stage = .arriving)).map Fetch.number =
      ((gs.map fun f => (f.number, f.stage)).filter (·.2 = .arriving)).map Prod.fst := fun gs => by
    rw [List.filter_map, List.map_map]
    rfl
  have hm : ∀ gs : List Fetch, gs.map Fetch.number =
      (gs.map fun f => (f.number, f.stage)).map Prod.fst := fun gs => by
    rw [List.map_map]
    rfl
  refine ⟨?_, ?_, ?_⟩
  · rw [hs, hf, ← hs, hn.1, h.arrived]
  · rw [hm, hf, ← hm, hn.1, h.landed]
  · rw [hn.2, h.cached]

theorem startFetch (h : Accounted vs id n []) (background : Bool) :
    Accounted vs id n.startFetch [⟨id, n.started, background, .arriving, []⟩] := by
  have ha := h.arrived
  have hl := h.landed
  simp only [List.filter_nil, List.map_nil, List.append_nil] at ha hl
  refine ⟨?_, ?_, h.cached⟩
  · rw [ha, Namespace.startFetch, List.range_succ]; rfl
  · rw [hl, Namespace.startFetch, List.range_succ]; rfl

theorem landing_of_waits {v : Visited} {next : Stage} (h : v.progress = .waits next) :
    v.landing? = none := by rw [Visited.landing?, h]

theorem landing_of_ends {v : Visited} {outcome : Except Fault Snapshot}
    (h : v.progress = .ends outcome) : v.landing? = some ⟨v.fetch, outcome, v.clock⟩ := by
  rw [Visited.landing?, h]

theorem skip (h : Accounted vs id n fs) {v : Visited} (hv : v.fetch.space ≠ id) :
    Accounted (vs ++ [v]) id n fs := by
  have hl : Loop.landed id v.landing?.toList = [] ∧ lastSuccess id v.landing?.toList = none := by
    cases hp : v.progress with
    | waits next => rw [landing_of_waits hp]; exact ⟨rfl, rfl⟩
    | ends outcome =>
      rw [landing_of_ends hp]
      simp [Loop.landed, lastSuccess, Landing.kept?, hv]
  refine ⟨?_, ?_, ?_⟩
  · rw [arrived_concat, if_neg fun he => hv he.1, List.append_nil, h.arrived]
  · rw [landings_concat, landed_append, hl.1, List.append_nil, h.landed]
  · rw [landings_concat, lastSuccess_append, hl.2, Option.none_or, h.cached]

theorem turn {v : Visited} (h : Accounted vs id n [v.fetch]) (hv : v.fetch.space = id)
    (hp : v.progress ≠ .waits .arriving) (b : Backend) :
    Accounted (vs ++ [v]) id (n.turn b v.fetch.background v.clock v.progress)
      (v.fetch.turn v.progress) := by
  have ha : Loop.arrived id (vs ++ [v]) = List.range n.started := by
    rw [arrived_concat, ← h.arrived]
    by_cases hs : v.fetch.stage = .arriving <;> simp [hv, hs]
  cases hw : v.progress with
  | waits next =>
    have hne : next ≠ .arriving := fun he => hp (by rw [hw, he])
    refine ⟨?_, ?_, ?_⟩
    · rw [ha]
      simp [Fetch.turn, Namespace.turn, hne]
    · rw [landings_concat, landing_of_waits hw, Option.toList_none, List.append_nil]
      exact h.landed
    · rw [landings_concat, landing_of_waits hw, Option.toList_none, List.append_nil]
      exact h.cached
  | ends outcome =>
    obtain ⟨reported, hl⟩ :=
      Namespace.land_eq { n with backend := b } v.fetch.background outcome v.clock
    rw [Namespace.turn, hl]
    refine ⟨?_, ?_, ?_⟩
    · rw [ha]; exact List.append_nil _
    · rw [landings_concat, landing_of_ends hw, landed_append, ← h.landed]
      simp [Loop.landed, Fetch.turn, hv]
    · rw [landings_concat, landing_of_ends hw, lastSuccess_append]
      cases outcome with
      | ok s => simp [lastSuccess, Landing.kept?, hv, Except.toOption]
      | error f => simp [lastSuccess, Landing.kept?, hv, Except.toOption, h.cached]

end Accounted

def Accounts (vs : List Visited) (l : Loop) : Prop :=
  ∀ id n, l.service.get? id = some n → Accounted vs id n (l.flights id)

namespace Accounts
variable {vs : List Visited} {l : Loop}

theorem fresh (hf : l.IsFresh) : Accounts [] l := by
  intro id n hn
  have hnil : l.flights id = [] := by rw [flights, hf.fetches]; rfl
  rw [hnil]
  exact .fresh (hf.service.get? hn)

theorem still {l' : Loop} (h : Accounts vs l) (hs : Still l l') : Accounts vs l' := by
  intro id n' hn'
  obtain ⟨n, hn, hc⟩ := hs.exists_core hn'
  obtain ⟨-, -, -, hca, -, hst, -⟩ := Namespace.core_eq_iff.1 hc
  exact (h id n hn).still ⟨hst.symm, hca.symm⟩ (flights_map_congr hs.stage id)

theorem ask (h : Accounts vs l) (hc : Coherent l) (target : Target) (call : Call) :
    Accounts vs (l.ask target call).1 := by
  obtain ⟨-, ha⟩ | ⟨id, n, notice, -, hn, -, hw, -, ha⟩ := l.ask_cases target call
  · rwa [ha]
  · rw [ha]
    intro j m hm
    rw [startFetch_get? (show (l.say notice).service.get? id = some n from hn)] at hm
    rw [startFetch_flights]
    by_cases hj : id = j
    · subst hj
      rw [if_pos rfl] at hm ⊢
      cases hm
      have hnil := hc.flights_eq_nil hn hw.1
      have hacc := h id n hn
      rw [hnil] at hacc
      rw [show (l.say notice).flights id = [] from hnil]
      exact hacc.startFetch n.cached.isSome
    · rw [if_neg hj] at hm ⊢
      rw [List.append_nil]
      exact h j m hm

theorem runFetch (h : Accounts vs l) (hc : Coherent l) {v : Visited} {n : Namespace}
    (hf : l.findFetch? v.fetch.space v.fetch.number = some v.fetch)
    (hn : l.service.get? v.fetch.space = some n)
    (hp : (n.backend.advance l.world v.fetch.number v.fetch.stage n.storeId).value.2 = v.progress)
    (hv : v.clock = l.clock) :
    Accounts (vs ++ [v]) (l.runFetch v.fetch.space v.fetch.number) := by
  have hne := n.backend.advance_ne_arriving l.world v.fetch.number v.fetch.stage n.storeId
  have hmem := mem_flights.2 ⟨(findFetch?_eq_some hf).1, rfl⟩
  intro id m hid
  rw [runFetch_get? hf hn] at hid
  rw [hc.runFetch_flights hf hn]
  rw [hp] at *
  by_cases he : v.fetch.space = id
  · rw [if_pos he] at hid ⊢
    cases hid
    have hacc := h id n (he ▸ hn)
    rw [hc.flights_eq_singleton (he ▸ hmem)] at hacc
    rw [← hv]
    exact hacc.turn he hne _
  · rw [if_neg he] at hid ⊢
    exact (h id m hid).skip he

theorem run (h : Accounts vs l) (hc : Coherent l) (ms : List Move) :
    Accounts (vs ++ l.visits ms) (l.run ms) := by
  have hr : Coherent (l.run ms) ∧ Accounts (vs ++ l.visits ms) (l.run ms) :=
    run_visits (P := fun vs l => Coherent l ∧ Accounts vs l)
      (fun _ _ _ hs h => ⟨h.1.quiet hs.toQuiet, h.2.still hs⟩)
      (fun _ _ target call h => ⟨h.1.ask target call, h.2.ask h.1 target call⟩)
      (fun _ _ _ _ hf hn hp hv h => ⟨h.1.runFetch hf hn, h.2.runFetch h.1 hf hn hp hv⟩) ⟨hc, h⟩ ms
  exact hr.2

theorem move (h : Accounts vs l) (hc : Coherent l) (m : Move) :
    Accounts (vs ++ (l.visit? m).toList) (l.move m) := by
  have hr := h.run hc [m]
  rwa [visits, visits, List.append_nil] at hr

end Accounts

end LiveConfig.Loop
