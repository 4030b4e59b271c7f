import LiveConfig.Proofs.Demand
import LiveConfig.Proofs.Outcome
set_option autoImplicit false

/-!
A refresh that fails harms nobody. Its fault goes to the handler and to no caller; the slot is empty
again, and the snapshot stays until a later fetch replaces it.
-/
namespace LiveConfig.Loop

def Landing.refreshFault? (x : Landing) : Option Fault :=
  match x.fetch.background, x.outcome with
  | true, .error f => some f
  | _, _ => none

def refreshFaults (id : Nat) (xs : List Landing) : List Fault :=
  (xs.filter (·.fetch.space = id)).filterMap Landing.refreshFault?

theorem refreshFaults_append (id : Nat) (xs ys : List Landing) :
    refreshFaults id (xs ++ ys) = refreshFaults id xs ++ refreshFaults id ys := by
  simp [refreshFaults]

def Told (vs : List Visited) (l : Loop) : Prop :=
  ∀ id n, l.service.get? id = some n → n.reported =
    if n.handler = .absent then [] else refreshFaults id (vs.filterMap Visited.landing?)

namespace Told
variable {vs : List Visited} {l : Loop}

theorem fresh (hf : l.IsFresh) : Told [] l := by
  intro id n hn
  rw [(hf.service.get? hn).reported]
  exact (ite_self _).symm

theorem quiet {l' : Loop} (h : Told vs l) (hq : Quiet l l') : Told vs l' := by
  intro id n' hn'
  obtain ⟨n, hn, hc⟩ := hq.exists_core hn'
  obtain ⟨-, -, hh, -, -, -, hr⟩ := Namespace.core_eq_iff.1 hc
  rw [← hr, ← hh]
  exact h id n hn

theorem ask (h : Told vs l) (target : Target) (call : Call) : Told vs (l.ask target call).1 := by
  intro id n' hn'
  have hm := ask_map l target call id (g := fun n => (n.handler, n.reported)) fun _ => rfl
  rw [hn', Option.map_some, eq_comm, Option.map_eq_some_iff] at hm
  obtain ⟨n, hn, he⟩ := hm
  obtain ⟨hh, hr⟩ := Prod.mk.inj he
  rw [← hr, ← hh]
  exact h id n hn

/-- The turn of a fetch adds to what was told just what it adds to the faults of refreshes. -/
theorem turn {v : Visited} {n : Namespace} (b : Backend)
    (h : n.reported = if n.handler = .absent then []
      else refreshFaults v.fetch.space (vs.filterMap Visited.landing?)) :
    (n.turn b v.fetch.background v.clock v.progress).reported =
      if n.handler = .absent then []
      else refreshFaults v.fetch.space ((vs ++ [v]).filterMap Visited.landing?) := by
  rw [landings_concat, refreshFaults_append]
  cases hp : v.progress with
  | waits next =>
    rw [Accounted.landing_of_waits hp]
    simpa [Namespace.turn, refreshFaults] using h
  | ends outcome =>
    rw [Accounted.landing_of_ends hp, Namespace.turn, Namespace.land_reported]
    cases hb : v.fetch.background <;> cases outcome <;> by_cases ha : n.handler = .absent <;>
      simp_all [refreshFaults, Landing.refreshFault?]

theorem skip {v : Visited} {id : Nat} (hv : v.fetch.space ≠ id) :
    refreshFaults id ((vs ++ [v]).filterMap Visited.landing?) =
      refreshFaults id (vs.filterMap Visited.landing?) := by
  rw [landings_concat, refreshFaults_append]
  cases hp : v.progress with
  | waits next => rw [Accounted.landing_of_waits hp]; exact List.append_nil _
  | ends outcome =>
    rw [Accounted.landing_of_ends hp]
    simp [refreshFaults, hv]

theorem runFetch (h : Told vs l) {v : Visited} {n : Namespace}
    (hf : l.findFetch? v.fetch.space v.fetch.number = some v.fetch)
    (hn : l.service.get? v.fetch.space = some n)
    (hp : (n.backend.advance l.world v.fetch.number v.fetch.stage n.storeId).value.2 = v.progress)
    (hv : v.clock = l.clock) :
    Told (vs ++ [v]) (l.runFetch v.fetch.space v.fetch.number) := by
  intro id n' hn'
  rw [runFetch_get? hf hn, hp] at hn'
  by_cases he : v.fetch.space = id
  · subst he
    rw [if_pos rfl] at hn'
    cases hn'
    rw [Namespace.turn_handler, ← hv]
    exact turn _ (h _ n hn)
  · rw [if_neg he] at hn'
    rw [skip he]
    exact h id n' hn'

theorem run (h : Told vs l) (ms : List Move) : Told (vs ++ l.visits ms) (l.run ms) :=
  run_visits (fun _ _ _ hs h => h.quiet hs.toQuiet) (fun _ _ target call h => h.ask target call)
    (fun _ _ _ _ hf hn hp hv h => h.runFetch hf hn hp hv) h ms

end Told

theorem ask_of_look {l : Loop} {target : Target} {call : Call} {id : Nat} {n : Namespace}
    (hl : l.locate target = .ok id) (hn : l.service.get? id = some n) {answer : Answer}
    (ha : call.look? n l.clock = some answer) : (l.ask target call).2 = .now (.ok answer) := by
  simp [ask, hl, hn, begin, ha]

theorem ask_wait {l : Loop} {target : Target} {id : Nat} {n : Namespace}
    (hl : l.locate target = .ok id) (hn : l.service.get? id = some n) :
    l.ask target .wait =
      match n.inFlight with
      | some k => (l, .later id k)
      | none => (l, .now (.ok .done)) := by
  simp only [ask, hl, hn]
  rfl

/-- What a call can fail with: its own reading of a snapshot, or the fault of the first fetch that
it has waited for. -/
inductive Blame (xs : List Landing) (id number : Nat) (name : String) (call : Call) (e : Fault) :
    Prop where
  | reading (s : Snapshot) (reads : call.reads) (fault : call.read name s = .error e)
  | first (x : Landing) (landed : x ∈ xs) (space : x.fetch.space = id)
      (number : x.fetch.number = number) (first : x.fetch.background = false)
      (reads : call.reads) (fault : x.outcome = .error e)

section Waits
variable {l : Loop} {task index : Nat} {call : Call} {f : Fetch}

/-- A call that has waited for a fetch is answered by what its end means for it. -/
theorem Waits.concluded (h : Waits l task index call f) (hc : Coherent l) (ho : Orderly l)
    {ms : List Move} {o : Except Fault Answer} (ha : (l.run ms).answer? task index = some o) :
    ∃ x ∈ l.landings ms, x.fetch.key = f.key ∧ ∃ ms₁ n,
      (l.run ms₁).service.get? f.space = some n ∧ o = conclude n call (f.news x.outcome) := by
  obtain ⟨n, hn, -⟩ := hc.home f.space f (mem_flights.2 ⟨h.fetch, rfl⟩)
  obtain ⟨-, f', -, h'⟩ | ⟨ms₁, m, ms₂, x, rfl, hx, hkey, hcome⟩ := h.run hc ho ms
  · obtain ⟨t, ht⟩ := h'.underWay
    cases ht.answer?_eq_none.symm.trans ha
  · have hsome : ((l.run (ms₁ ++ [m])).service.get? f.space).isSome := by rw [run_isSome, hn]; rfl
    have hsplit : ms₁ ++ m :: ms₂ = (ms₁ ++ [m]) ++ ms₂ := by simp
    rw [← run_concat] at hcome
    rw [hsplit, run_append] at ha
    refine ⟨x, landing_mem hx ms₂, hkey, ?_⟩
    obtain hcome | hd | ⟨as, bs, n', rfl, hn', -, hr⟩ :=
      hcome.run (hc.run _) (ho.run hc _) hsome ms₂
    · cases hcome.answer?_eq_none.symm.trans ha
    · cases hd.answer?_eq_none.symm.trans ha
    · rw [run_append, run_cons] at ha
      refine ⟨(ms₁ ++ [m]) ++ as, n', by rw [run_append]; exact hn', ?_⟩
      exact Option.some.inj (ha.symm.trans (run_answer? bs hr))

theorem Waits.blame (h : Waits l task index call f) (hc : Coherent l) (ho : Orderly l)
    (hcall : call.reads ∧ f.background = false ∨ call = .wait) {n : Namespace}
    (hn : l.service.get? f.space = some n) {ms : List Move} {e : Fault}
    (he : (l.run ms).answer? task index = some (.error e)) :
    Blame (l.landings ms) f.space f.number n.name call e := by
  obtain ⟨x, hx, hkey, ms₁, n', hn', ho⟩ := h.concluded hc ho he
  simp only [Fetch.key, Prod.mk.injEq] at hkey
  obtain ⟨hr, hb⟩ | rfl := hcall
  · cases hout : x.outcome with
    | error f' =>
      simp only [hout, Fetch.news, hb, Bool.false_eq_true, if_false, conclude_of_error hr] at ho
      cases ho
      exact .first x hx hkey.1 hkey.2.1 (hkey.2.2.trans hb) hr hout
    | ok s =>
      have hname := run_name l ms₁ f.space
      rw [hn', hn, Option.map_some, Option.map_some, Option.some.injEq] at hname
      rw [hout, Fetch.news, conclude_of_success hr, hname] at ho
      exact .reading _ hr ho.symm
  -- Who only waits is told of no fault.
  · cases ho

end Waits

/-- Whatever a call fails with, it is not the fault of a refresh. -/
theorem blame_of_asked {l : Loop} (hc : Coherent l) (ho : Orderly l) {m : Move} {a : Asked}
    (ha : a ∈ l.asked m) {id : Nat} (hl : a.loop.locate a.target = .ok id) {n : Namespace}
    (hn : a.loop.service.get? id = some n) {ms : List Move} {e : Fault}
    (he : ((l.move m).run ms).answer? a.task a.index = some (.error e)) :
    Blame ((l.move m).landings ms) id (n.inFlight.getD n.started) n.name a.call e := by
  have hnow : ∀ {o}, (a.loop.ask a.target a.call).2 = .now o → o = .error e := fun ho => by
    obtain ⟨s, hm, hs⟩ := asked_cases ha
    rw [hm] at he
    exact Option.some.inj ((run_answer? ms (asking_now hs ho)).symm.trans he)
  by_cases hr : a.call.reads
  · cases hcached : n.cached with
    | some c => exact .reading c.snapshot hr (hnow (ask_of_cached hl hn hr hcached))
    | none =>
      obtain ⟨f, n', hw, rfl, hk, hb, hn', hname⟩ := waits_of_missing hc ha hr hl hn hcached
      rw [← hk, ← hname]
      exact hw.blame (hc.move m) (ho.move hc m) (.inl ⟨hr, hb⟩) hn' he
  · cases hcall : a.call with
    | wait =>
      have hask := ask_wait hl hn
      rw [← hcall] at hask
      cases hi : n.inFlight with
      | none =>
        rw [hi] at hask
        cases hnow (congrArg Prod.snd hask)
      | some k =>
        rw [hi] at hask
        have hrep : (a.loop.ask a.target a.call).2 = .later id k := congrArg Prod.snd hask
        have hn' : (a.loop.ask a.target a.call).1.service.get? id = some n := by rw [hask]; exact hn
        obtain ⟨f, hw, rfl, rfl, -, hend⟩ := waits_of_later hc ha hrep hn' hi
        rw [← hcall]
        exact hw.blame (hc.move m) (ho.move hc m) (.inr hcall) hend he
    | isStale | isRefreshing | label | describe =>
      cases hnow (ask_of_look hl hn (by rw [hcall]; rfl))
    | get | require | all | parse | edit => rw [hcall] at hr; exact absurd rfl hr

theorem Accounts.asked {vs : List Visited} {l : Loop} (h : Accounts vs l) (hc : Coherent l)
    {m : Move} {a : Asked} (ha : a ∈ l.asked m) : Coherent a.loop ∧ Accounts vs a.loop := by
  obtain ⟨s, -, hs⟩ := asked_cases ha
  have hd : Coherent l.dequeue ∧ Accounts vs l.dequeue :=
    ⟨hc.quiet (.of_eq rfl rfl), h.still (.of_eq rfl rfl)⟩
  exact asking_keeps (P := fun l => Coherent l ∧ Accounts vs l)
    (fun _ target call h => ⟨h.1.ask target call, h.2.ask h.1 target call⟩) hd _ _ _ _ a hs

/-- A slot that is empty stays so until another fetch is started. -/
theorem Accounts.stays_empty {vs ws : List Visited} {l l' : Loop} (h : Accounts vs l)
    (h' : Accounts (vs ++ ws) l') (hc : Coherent l) (hc' : Coherent l') {id : Nat}
    {n n' : Namespace} (hn : l.service.get? id = some n) (hn' : l'.service.get? id = some n')
    (hi : n.inFlight = none) (hs : n'.started = n.started) : n'.inFlight = none := by
  have hl := (h id n hn).landed
  have hl' := (h' id n' hn').landed
  rw [hc.flights_eq_nil hn hi, List.map_nil, List.append_nil] at hl
  rw [List.filterMap_append, landed_append, hs, ← hl, List.append_assoc] at hl'
  obtain ⟨-, hnil⟩ := List.append_eq_nil_iff.1 (List.append_right_eq_self.1 hl')
  rw [hc'.slot id n' hn'] at hnil
  exact Option.toList_eq_nil_iff.1 hnil

theorem launch_of_stale {l : Loop} {target : Target} {call : Call} {id : Nat} {n : Namespace}
    (hl : l.locate target = .ok id) (hn : l.service.get? id = some n) (hr : call.reads)
    (hi : n.inFlight = none) (hs : n.isStale l.clock = true) :
    l.launch target call = [⟨id, n.started, true, .arriving, []⟩] := by
  have hc : n.cached.isSome := by
    cases hc : n.cached with
    | some c => rfl
    | none => simp [Namespace.isStale, hc] at hs
  simp [launch, hl, hn, hr, Namespace.Wants, hi, hs, hc]

structure Absorbed (n n' : Namespace) (f : Fault) : Prop where
  slot : n'.inFlight = none
  cached : n'.cached = n.cached
  kept : n.cached.isSome
  told : n'.reported = n.reported ++ if n.handler = .absent then [] else [f]

/-- What becomes of failed refreshes. The handler has been told of each of them once, and of nothing
else; each leaves the namespace as it was, but for the slot; the next call that finds the snapshot
too old starts another refresh; and no call ever fails with the fault of a refresh. -/
structure Absorption (l : Loop) (ms : List Move) (id : Nat) (n : Namespace) : Prop where
  told : n.reported = if n.handler = .absent then [] else refreshFaults id (l.landings ms)
  failure : ∀ m x f n', (l.run ms).landing? id m = some x → x.refreshFault? = some f →
    ((l.run ms).move m).service.get? id = some n' → Absorbed n n' f
  again : ∀ m x f n' ms' m' a n'', (l.run ms).landing? id m = some x →
    x.refreshFault? = some f → ((l.run ms).move m).service.get? id = some n' →
      a ∈ (((l.run ms).move m).run ms').asked m' → a.call.reads →
        a.loop.locate a.target = .ok id → a.loop.service.get? id = some n'' →
          n''.started = n'.started → n''.isStale a.loop.clock = true →
            (a.loop.ask a.target a.call).1.fetches =
              a.loop.fetches ++ [⟨id, n'.started, true, .arriving, []⟩]
  answers : ∀ m a n' ms' e, a ∈ (l.run ms).asked m → a.loop.locate a.target = .ok id →
    a.loop.service.get? id = some n' →
      (((l.run ms).move m).run ms').answer? a.task a.index = some (.error e) →
        Blame (((l.run ms).move m).landings ms') id (n'.inFlight.getD n'.started) n'.name a.call e

theorem Landing.refreshFault?_eq_some {x : Landing} {f : Fault} :
    x.refreshFault? = some f ↔ x.fetch.background = true ∧ x.outcome = .error f := by
  cases hb : x.fetch.background <;> cases ho : x.outcome <;> simp [refreshFault?, hb, ho]

theorem absorbed {l : Loop} (hf : l.IsFresh) {ms : List Move} {m : Move} {id : Nat}
    {n n' : Namespace} {x : Landing} {f : Fault} (hn : (l.run ms).service.get? id = some n)
    (hn' : ((l.run ms).move m).service.get? id = some n') (hx : (l.run ms).landing? id m = some x)
    (hfault : x.refreshFault? = some f) : Absorbed n n' f := by
  have hc : Coherent (l.run ms) := (Coherent.fresh hf).run ms
  have hm := (landing_found hx).1
  obtain ⟨hb, ho⟩ := Landing.refreshFault?_eq_some.1 hfault
  refine ⟨hc.slot_of_landing hx hn', ?_, ?_, ?_⟩
  · have hother : ∀ y s, (l.run ms).landing? id m = some y → y.outcome ≠ .ok s := by
      intro y s hy hs
      cases hx.symm.trans hy
      cases ho.symm.trans hs
    rw [cached_move hf ms m hn', lastSuccess_of_other hother, Option.none_or]
    exact ((Accounts.fresh hf).run (.fresh hf) ms id n hn).cached.symm
  · obtain ⟨n₀, hn₀, -, hback⟩ := hc.home id x.fetch hm
    cases hn.symm.trans hn₀
    rw [← hback, hb]
  · have ht := (Told.fresh hf).run ms id n hn
    rw [← run_concat] at hn'
    have ht' := (Told.fresh hf).run (ms ++ [m]) id n' hn'
    have hh := run_handler (l.run ms) [m] id
    rw [← run_append, hn', hn, Option.map_some, Option.map_some, Option.some.injEq] at hh
    change _ = if _ then _ else refreshFaults id (l.landings ms) at ht
    change _ = if _ then _ else refreshFaults id (l.landings (ms ++ [m])) at ht'
    rw [ht', ht, hh, landings_append, refreshFaults_append, refreshFaults, refreshFaults,
      landings_filter, hx]
    split <;> simp [hfault]

theorem absorption {l : Loop} (hf : l.IsFresh) (ms : List Move) {id : Nat} {n : Namespace}
    (hn : (l.run ms).service.get? id = some n) : Absorption l ms id n := by
  have hc : Coherent (l.run ms) := (Coherent.fresh hf).run ms
  have ho : Orderly (l.run ms) := (Orderly.fresh hf).run (.fresh hf) ms
  refine ⟨(Told.fresh hf).run ms id n hn, fun m x f n' hx hfault hn' => absorbed hf hn hn' hx hfault,
    fun m x f n' ms' m' a n'' hx hfault hn' ha hr hl hn'' hst hs => ?_,
    fun m a n' ms' e ha hl hn' he => blame_of_asked hc ho ha hl hn' he⟩
  have hslot := (absorbed hf hn hn' hx hfault).slot
  rw [← run_concat] at hn' ha
  have hacc := (Accounts.fresh hf).run (.fresh hf) (ms ++ [m])
  have hc' : Coherent (l.run (ms ++ [m])) := (Coherent.fresh hf).run _
  obtain ⟨hca, haa⟩ := (hacc.run hc' ms').asked (hc'.run ms') ha
  have hi := hacc.stays_empty haa hc' hca hn' hn'' hslot hst
  rw [ask_fetches, launch_of_stale hl hn'' hr hi hs, hst]

def failing : Loop :=
  start (Service.empty.adopt { Namespace.fresh
    (.scripted (.fresh .none false (.ofList [.ok .empty, .error .rejected]))) "store" (some 0) none
    with handler := .failing }).1 .offline 1000

theorem failing_isFresh : failing.IsFresh :=
  start_isFresh (Service.empty_isFresh.adopt ⟨rfl, rfl, rfl, rfl⟩) _ _

def served : List Move :=
  [.event (.begin 0 (.space 0) [.all]), .turn, .turn, .turn, .turn,
    .event (.begin 1 (.space 0) [.all])]

/-- A call that finds an old snapshot is answered from it, and a refresh is started. -/
theorem ask_of_stale {l : Loop} {id : Nat} {target : Target} {n : Namespace} {c : Cached}
    (hl : l.locate target = .ok id) (hn : l.service.get? id = some n) {call : Call}
    (hr : call.reads) (hc : n.cached = some c) (hi : n.inFlight = none)
    (hs : n.isStale l.clock = true) :
    l.ask target call = ((l.say (.stale n.name (c.age l.clock))).startFetch id n true,
      .now (call.read n.name c.snapshot)) := by
  rw [ask_of_reads hl hn hr]
  simp [access, hc, hi, hs]

/-- The task that makes it goes on. -/
theorem move_of_stale {l : Loop} {job : Job} {rest : List Job} {s : Stretch} {id : Nat}
    {n : Namespace} {c : Cached} {call : Call} {calls : List Call} (hj : l.ready = job :: rest)
    (hs : l.stretch? job = some s) (ha : s.calls = call :: calls) (hl : l.locate s.target = .ok id)
    (hn : l.service.get? id = some n) (hr : call.reads) (hc : n.cached = some c)
    (hi : n.inFlight = none) (hold : n.isStale l.clock = true) :
    l.move .turn = ((l.dequeue.say (.stale n.name (c.age l.clock))).startFetch id n true).proceed
      s.task s.target (s.answers ++ [call.read n.name c.snapshot]) calls := by
  rw [move_of_stretch hj hs, ha, proceed, ask_of_stale (l := l.dequeue) hl hn hr hc hi hold]
  rfl

/-- The refresh that the second task starts fails, and the handler is told of it. -/
theorem absorption_failing : ∃ n, (failing.run (served ++ [.turn, .turn])).service.get? 0 = some n ∧
    n.inFlight = none ∧ n.cached = some ⟨.empty, 1000⟩ ∧ n.reported = [.rejected] ∧
    Absorption failing (served ++ [.turn, .turn]) 0 n := by
  have hold : Decimal.atLeast (Cached.age ⟨.empty, 1000⟩ 1000) 0 = true := by decide +kernel
  have hmove : (failing.run served).move .turn = _ :=
    move_of_stale (s := ⟨1, .space 0, [], [.all]⟩) rfl rfl rfl rfl rfl rfl rfl rfl (by exact hold)
  have hrun : ∃ n, (failing.run (served ++ [.turn, .turn])).service.get? 0 = some n ∧
      n.inFlight = none ∧ n.cached = some ⟨.empty, 1000⟩ ∧ n.reported = [.rejected] := by
    rw [run_append, run_cons, hmove]
    exact ⟨_, rfl, rfl, rfl, rfl⟩
  obtain ⟨n, hn, hi, hc, hr⟩ := hrun
  exact ⟨n, hn, hi, hc, hr, absorption failing_isFresh _ hn⟩

end LiveConfig.Loop
