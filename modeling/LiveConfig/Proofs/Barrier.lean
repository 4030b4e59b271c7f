import LiveConfig.Proofs.Absorption
set_option autoImplicit false

/-!
Waiting is a barrier. Who waits for the fetch in flight goes on after its end and not before,
however it ends. Who then reads a namespace whose snapshot was found old reads what the refresh has
brought, or something newer.
-/
namespace LiveConfig.Loop

def Precedes (as : List Asked) (a b : Asked) : Prop := [a, b].Sublist as

theorem Precedes.of_append {as bs : List Asked} {a b : Asked} (h : Precedes (as ++ bs) a b) :
    Precedes as a b ∨ a ∈ as ∧ b ∈ bs ∨ Precedes bs a b := by
  obtain ⟨pre, post, he, hpre, hpost⟩ := List.sublist_append_iff.1 h
  rcases pre with _ | ⟨x, _ | ⟨y, rest⟩⟩
  · cases he
    exact .inr (.inr hpost)
  · cases he
    exact .inr (.inl ⟨hpre.subset List.mem_cons_self, hpost.subset List.mem_cons_self⟩)
  · simp only [List.cons_append, List.cons.injEq] at he
    obtain ⟨rfl, rfl, he⟩ := he
    obtain ⟨rfl, rfl⟩ := List.append_eq_nil_iff.1 he.symm
    exact .inl hpre

theorem mem_calls {l : Loop} {ms : List Move} {a : Asked} (h : a ∈ l.calls ms) :
    ∃ ms₁ m ms₂, ms = ms₁ ++ m :: ms₂ ∧ a ∈ (l.run ms₁).asked m := by
  induction ms generalizing l with
  | nil => cases h
  | cons m ms ih =>
    rw [calls, List.mem_append] at h
    rcases h with h | h
    · exact ⟨[], m, ms, rfl, h⟩
    · obtain ⟨ms₁, m', ms₂, rfl, hm⟩ := ih h
      exact ⟨m :: ms₁, m', ms₂, rfl, hm⟩

section Asking
variable {l : Loop} {task : Nat} {target : Target} {index : Nat} {calls : List Call}

theorem asking_task {a : Asked} (h : a ∈ l.asking task target index calls) : a.task = task := by
  induction calls generalizing l index with
  | nil => cases h
  | cons call rest ih =>
    rw [asking, List.mem_cons] at h
    rcases h with rfl | h
    · rfl
    split at h
    · exact ih h
    · cases h

/-- In one stretch, a call that comes before another is answered at once. -/
theorem asking_order {a b : Asked} (h : Precedes (l.asking task target index calls) a b) :
    ∃ o rest, (a.loop.ask a.target a.call).2 = .now o ∧
      b ∈ (a.loop.ask a.target a.call).1.asking task target (a.index + 1) rest := by
  induction calls generalizing l index with
  | nil => cases h
  | cons call rest ih =>
    rw [asking] at h
    cases hask : l.ask target call with
    | mk l' reply =>
      rw [hask] at h
      cases reply with
      | now outcome =>
        cases h with
        | cons _ h => exact ih h
        | cons_cons _ h =>
          refine ⟨outcome, rest, congrArg Prod.snd hask, ?_⟩
          rw [hask]
          exact h.subset List.mem_cons_self
      | later space number =>
        have hlen := h.length_le
        simp at hlen

/-- What holds after a call, and is kept, holds at the end of its stretch. -/
theorem asking_reaches {P : Loop → Prop} (ha : ∀ l target call, P l → P (l.ask target call).1)
    (hj : ∀ l space number, P l → P (l.join space number task))
    (ht : ∀ l t, P l → P (l.setTask task t)) {a : Asked}
    (hm : a ∈ l.asking task target index calls) (hp : P (a.loop.ask a.target a.call).1)
    (answers : List (Except Fault Answer)) : P (l.proceed task target answers calls) := by
  induction calls generalizing l index answers with
  | nil => cases hm
  | cons call rest ih =>
    rw [asking, List.mem_cons] at hm
    rw [proceed]
    cases hask : l.ask target call with
    | mk l' reply =>
      rw [hask] at hm
      rcases hm with rfl | hm
      · rw [hask] at hp
        cases reply with
        | now outcome => exact proceed_keeps ha hj ht hp target _ rest
        | later space number => exact ht _ _ (hj _ _ _ hp)
      · cases reply with
        | now outcome => exact ih hm _
        | later space number => cases hm

end Asking

/-- While a task waits for a fetch, it makes no calls. -/
theorem Waits.silent {l : Loop} {task index : Nat} {call : Call} {f : Fetch}
    (h : Waits l task index call f) (ho : Orderly l) {m : Move} {b : Asked} (hb : b ∈ l.asked m) :
    b.task ≠ task := by
  obtain ⟨job, rest, s, hr, hs, -, hasked⟩ := stretch_of_asked hb
  rw [asking_task (hasked ▸ hb)]
  exact h.held ho hr hs

theorem asked_order {l : Loop} {m : Move} {a b : Asked} (h : Precedes (l.asked m) a b) :
    ∃ o target index rest, (a.loop.ask a.target a.call).2 = .now o ∧
      b ∈ (a.loop.ask a.target a.call).1.asking a.task target index rest := by
  have ha := h.subset List.mem_cons_self
  obtain ⟨-, -, s, -, -, -, hasked⟩ := stretch_of_asked ha
  rw [hasked] at h ha
  obtain ⟨o, calls, ho, hb⟩ := asking_order h
  exact ⟨o, s.target, _, calls, ho, asking_task ha ▸ hb⟩

def Busy (id k : Nat) (l : Loop) : Prop :=
  ∃ n, l.service.get? id = some n ∧ n.inFlight = some k

section Busy
variable {l : Loop} {id k : Nat}

/-- After a call that has found the snapshot old, a refresh is in flight: one that was before, or
the one that it has started. -/
theorem busy_of_stale {target : Target} {call : Call} {n : Namespace}
    (hl : l.locate target = .ok id) (hn : l.service.get? id = some n) (hr : call.reads)
    (hs : n.isStale l.clock = true) :
    Busy id (n.inFlight.getD n.started) (l.ask target call).1 := by
  cases hi : n.inFlight with
  | some number => exact ask_slot ⟨n, hn, hi⟩ target call
  | none =>
    have hlaunch := launch_of_stale hl hn hr hi hs
    obtain ⟨hnone, -⟩ | ⟨j, n', notice, hj, hn', -, -, -, ha⟩ := l.ask_cases target call
    · cases hnone.symm.trans hlaunch
    · cases hl.symm.trans hj
      cases hn.symm.trans hn'
      refine ⟨n.startFetch, ?_, rfl⟩
      rw [ha, startFetch_get? (show (l.say notice).service.get? id = some n from hn), if_pos rfl]

theorem Busy.ask (h : Busy id k l) (target : Target) (call : Call) :
    Busy id k (l.ask target call).1 := ask_slot h target call

theorem Busy.asked (h : Busy id k l) {m : Move} {a : Asked} (ha : a ∈ l.asked m) :
    Busy id k a.loop := by
  obtain ⟨s, -, hs⟩ := asked_cases ha
  exact asking_keeps (fun _ target call h => h.ask target call) (l := l.dequeue) h _ _ _ _ a hs

theorem Busy.move {m : Move} {a : Asked} (ha : a ∈ l.asked m)
    (h : Busy id k (a.loop.ask a.target a.call).1) : Busy id k (l.move m) := by
  obtain ⟨s, hm, hs⟩ := asked_cases ha
  rw [hm]
  exact asking_reaches (P := Busy id k) (fun _ target call h => h.ask target call)
    (fun _ _ _ h => h) (fun _ _ h => h) hs h _

/-- A fetch that is in flight after a call is so still at a later call, or has ended in between. -/
theorem Busy.since (hf : l.IsFresh) {ms : List Move} {m : Move} {s a : Asked}
    (ha : a ∈ (l.run ms).asked m) (hsa : Precedes (l.calls (ms ++ [m])) s a)
    (h : Busy id k (s.loop.ask s.target s.call).1) :
    k ∈ landed id (l.landings ms) ∨ Busy id k a.loop := by
  have hearlier : s ∈ l.calls ms → k ∈ landed id (l.landings ms) ∨ Busy id k a.loop := by
    intro hs
    obtain ⟨ms₁, m', ms₂, rfl, hs'⟩ := mem_calls hs
    have hc : Coherent (l.run (ms₁ ++ [m'])) := (Coherent.fresh hf).run _
    obtain ⟨n, hn, hi⟩ := Busy.move hs' h
    rw [← run_concat] at hn
    have hsplit : ms₁ ++ m' :: ms₂ = (ms₁ ++ [m']) ++ ms₂ := by simp
    rw [hsplit] at ha ⊢
    by_cases hk : k ∈ landed id ((l.run (ms₁ ++ [m'])).landings ms₂)
    · left
      rw [landings_append, landed_append]
      exact List.mem_append_right _ hk
    · right
      rw [run_append] at ha
      exact Busy.asked (hc.busy hn hi hk).1 ha
  rw [calls_append, calls, calls, List.append_nil] at hsa
  rcases hsa.of_append with hs | ⟨hs, -⟩ | hs
  · exact hearlier (hs.subset List.mem_cons_self)
  · exact hearlier hs
  · right
    obtain ⟨o, target, index, rest, -, hb⟩ := asked_order hs
    exact asking_keeps (fun _ target call h => h.ask target call) h _ _ _ _ a hb

end Busy

/-- If the fetch with this number succeeds in a run, the call reads what it has brought, or what a
later one has. -/
def Renewed (l : Loop) (ms : List Move) (id k : Nat) (name : String) (b : Asked) : Prop :=
  ∀ x s, x ∈ l.landings ms → x.fetch.space = id → x.fetch.number = k → x.outcome = .ok s →
    ∃ y s', y ∈ l.landings ms ∧ y.fetch.space = id ∧ k ≤ y.fetch.number ∧ y.outcome = .ok s' ∧
      (l.run ms).answer? b.task b.index = some (b.call.read name s')

theorem lastSuccess_since {id k : Nat} {xs : List Landing} {ns : List Nat}
    (h : landed id xs ++ ns = List.range k) {x : Landing} {s : Snapshot} (hx : x ∈ xs)
    (hi : x.fetch.space = id) (hs : x.outcome = .ok s) :
    ∃ y s', lastSuccess id xs = some y ∧ y.fetch.space = id ∧ y.outcome = .ok s' ∧
      x.fetch.number ≤ y.fetch.number := by
  obtain ⟨pre, post, rfl⟩ := List.append_of_mem hx
  obtain ⟨y, s', hy, hyi, hys⟩ := lastSuccess_of_mem (List.mem_cons_self (l := post)) hi hs
  refine ⟨y, s', ?_, hyi, hys, ?_⟩
  · rw [lastSuccess_append, hy, Option.some_or]
  · rcases List.mem_cons.1 (lastSuccess_mem hy).1 with rfl | hm
    · exact Nat.le_refl _
    · rw [show pre ++ x :: post = (pre ++ [x]) ++ post by simp] at h
      have hxm : x ∈ pre ++ [x] := List.mem_append_right _ List.mem_cons_self
      exact Nat.le_of_lt (landed_lt h hxm hm hi hyi)

section Renewed
variable {l : Loop} {id k : Nat}

/-- A call that is made after the end of a fetch reads what that fetch has brought, or something
newer. -/
theorem renewed_of_landed (hf : l.IsFresh) {ms₁ ms₂ : List Move} {m : Move} {b : Asked}
    (hb : b ∈ (l.run ms₁).asked m) (hr : b.call.reads) (hl : b.loop.locate b.target = .ok id)
    {name : String} (hname : ((l.run ms₁).service.get? id).map Namespace.name = some name)
    (hk : k ∈ landed id (l.landings ms₁)) : Renewed l (ms₁ ++ m :: ms₂) id k name b := by
  intro x s hx hi hnum hs
  obtain ⟨n, hn, rfl⟩ := Option.map_eq_some_iff.1 hname
  have hsome : ((l.run (ms₁ ++ m :: ms₂)).service.get? id).isSome := by
    rw [run_append, run_isSome, hn]; rfl
  obtain ⟨n', hn'⟩ := Option.isSome_iff_exists.1 hsome
  have hall : landed id (l.landings _) ++ _ = _ :=
    ((Accounts.fresh hf).run (.fresh hf) (ms₁ ++ m :: ms₂) id n' hn').landed
  have hacc := (Accounts.fresh hf).run (.fresh hf) ms₁ id n hn
  rw [landings_append] at hx hall
  -- The fetch ends once, so it was this end that came before the call.
  have hx₁ : x ∈ l.landings ms₁ := by
    obtain ⟨x', hx', hnum'⟩ := List.mem_map.1 hk
    obtain ⟨hx', hi'⟩ := List.mem_filter.1 hx'
    rwa [landing_unique hall hx (List.mem_append_left _ hx') hi (by simpa using hi')
      (hnum.trans hnum'.symm)]
  obtain ⟨y, s', hy, hyi, hys, hle⟩ := lastSuccess_since hacc.landed hx₁ hi hs
  have hcached : n.cached = (lastSuccess id (l.landings ms₁)).bind _ := hacc.cached
  rw [show lastSuccess id (l.landings ms₁) = some y from hy, Option.bind_some, Landing.kept?,
    if_pos hyi, hys] at hcached
  have hseen := asked_map (l.run ms₁) m id (g := fun n => (n.name, n.cached)) (fun _ => rfl) b hb
  rw [hn, Option.map_some, Option.map_eq_some_iff] at hseen
  obtain ⟨nb, hnb, he⟩ := hseen
  obtain ⟨hname', hcached'⟩ := Prod.mk.inj he
  obtain ⟨stretch, hm, hstretch⟩ := asked_cases hb
  refine ⟨y, s', ?_, hyi, hnum ▸ hle, hys, ?_⟩
  · rw [landings_append]
    exact List.mem_append_left _ (lastSuccess_mem hy).1
  · rw [run_append, run_cons, hm, ← hname']
    exact run_answer? ms₂ (asking_now hstretch (ask_of_cached hl hnb hr (hcached'.trans hcached)))

end Renewed

/-- What waiting does. It starts nothing. When no fetch is in flight it is over in the same move;
otherwise it goes on until the end of that very fetch, and is over two rounds of the queue after it.
It never fails. What the task reads then is what the fetch has brought on which it waited, or
something newer; the same goes for the refresh that was in flight after any earlier access that
found the snapshot old. -/
structure Barrier (l : Loop) (ms : List Move) (m : Move) (a : Asked) (id : Nat) (n : Namespace) :
    Prop where
  still : a.loop.launch a.target a.call = [] ∧ (a.loop.ask a.target a.call).1 = a.loop
  idle : n.inFlight = none → ∀ ms',
    (((l.run ms).move m).run ms').answer? a.task a.index = some (.ok .done)
  holds : ∀ k ms', n.inFlight = some k → k ∉ landed id (((l.run ms).move m).landings ms') →
    (((l.run ms).move m).run ms').answer? a.task a.index = none
  normal : ∀ ms' o, (((l.run ms).move m).run ms').answer? a.task a.index = some o → o = .ok .done
  prompt : ∀ k ms' ms₁ ms₂, n.inFlight = some k →
    k ∈ landed id (((l.run ms).move m).landings ms') →
    (((l.run ms).move m).run ms').ready.length ≤ turns ms₁ →
    ((((l.run ms).move m).run ms').run ms₁).ready.length ≤ turns ms₂ →
      Cancelled ((((l.run ms).move m).run ms').run (ms₁ ++ ms₂)) a.task ∨
        ((((l.run ms).move m).run ms').run (ms₁ ++ ms₂)).answer? a.task a.index = some (.ok .done)
  awaited : ∀ k ms' b, n.inFlight = some k → Precedes ((l.run ms).calls (m :: ms')) a b →
    b.task = a.task → b.call.reads → b.loop.locate b.target = .ok id →
      Renewed l (ms ++ m :: ms') id k n.name b
  renewed : ∀ s n₀ ms' b, Precedes (l.calls (ms ++ [m])) s a → s.call.reads →
    s.loop.locate s.target = .ok id → s.loop.service.get? id = some n₀ →
    n₀.isStale s.loop.clock = true → Precedes ((l.run ms).calls (m :: ms')) a b →
    b.task = a.task → b.call.reads → b.loop.locate b.target = .ok id →
      Renewed l (ms ++ m :: ms') id (n₀.inFlight.getD n₀.started) n.name b

section Barrier
variable {l : Loop} {ms : List Move} {m : Move} {a : Asked} {id : Nat} {n : Namespace}

theorem waits_of_wait (hc : Coherent (l.run ms)) (ha : a ∈ (l.run ms).asked m)
    (hw : a.call = .wait) (hl : a.loop.locate a.target = .ok id)
    (hn : a.loop.service.get? id = some n) {k : Nat} (hi : n.inFlight = some k) :
    ∃ f, Waits ((l.run ms).move m) a.task a.index .wait f ∧ f.space = id ∧ f.number = k := by
  have hask := ask_wait hl hn
  rw [hi, ← hw] at hask
  have hn' : (a.loop.ask a.target a.call).1.service.get? id = some n := by rw [hask]; exact hn
  obtain ⟨f, hwait, hs, hk, -⟩ := waits_of_later hc ha (congrArg Prod.snd hask) hn' hi
  exact ⟨f, hw ▸ hwait, hs, hk⟩

theorem run_asked_name (ha : a ∈ (l.run ms).asked m) (hn : a.loop.service.get? id = some n)
    (ms' : List Move) :
    (((l.run ms).run ms').service.get? id).map Namespace.name = some n.name := by
  have hseen := asked_map (l.run ms) m id (g := Namespace.name) (fun _ => rfl) a ha
  rw [run_name, ← hseen, hn]
  rfl

/-- A wait that finds no fetch in flight is over when the move is. -/
theorem answer?_of_idle (ha : a ∈ (l.run ms).asked m) (hw : a.call = .wait)
    (hl : a.loop.locate a.target = .ok id) (hn : a.loop.service.get? id = some n)
    (hi : n.inFlight = none) (ms' : List Move) :
    (((l.run ms).move m).run ms').answer? a.task a.index = some (.ok .done) := by
  have hask := ask_wait hl hn
  rw [hi, ← hw] at hask
  obtain ⟨s, hm, hs⟩ := asked_cases ha
  rw [hm]
  exact run_answer? ms' (asking_now hs (congrArg Prod.snd hask))

theorem answer_of_wait (hc : Coherent (l.run ms)) (ho : Orderly (l.run ms))
    (ha : a ∈ (l.run ms).asked m) (hw : a.call = .wait) (hl : a.loop.locate a.target = .ok id)
    (hn : a.loop.service.get? id = some n) {ms' : List Move} {o : Except Fault Answer}
    (h : (((l.run ms).move m).run ms').answer? a.task a.index = some o) : o = .ok .done := by
  cases hi : n.inFlight with
  | none => exact Option.some.inj (h.symm.trans (answer?_of_idle ha hw hl hn hi ms'))
  | some k =>
    obtain ⟨f, hwait, -⟩ := waits_of_wait hc ha hw hl hn hi
    obtain ⟨-, -, -, -, -, -, rfl⟩ := hwait.concluded (hc.move m) (ho.move hc m) h
    rfl

/-- A task that has waited for a fetch makes its next call after the end of that fetch. -/
theorem landed_of_waited (hc : Coherent (l.run ms)) (ho : Orderly (l.run ms))
    (ha : a ∈ (l.run ms).asked m) (hw : a.call = .wait) (hl : a.loop.locate a.target = .ok id)
    (hn : a.loop.service.get? id = some n) {k : Nat} (hi : n.inFlight = some k)
    {ms' : List Move} {b : Asked} (hab : Precedes ((l.run ms).calls (m :: ms')) a b)
    (hb : b.task = a.task) : ∃ ms₁ m' ms₂, ms' = ms₁ ++ m' :: ms₂ ∧
      b ∈ (((l.run ms).move m).run ms₁).asked m' ∧
      k ∈ landed id (((l.run ms).move m).landings ms₁) := by
  have hlater : b ∈ ((l.run ms).move m).calls ms' := by
    rw [calls] at hab
    rcases hab.of_append with h | ⟨-, h⟩ | h
    -- In the move of the wait, nothing comes after it.
    · have hask := ask_wait hl hn
      rw [hi, ← hw] at hask
      obtain ⟨o, -, -, -, hnow, -⟩ := asked_order h
      cases hnow.symm.trans (congrArg Prod.snd hask)
    · exact h
    · exact h.subset (List.mem_cons_of_mem a List.mem_cons_self)
  obtain ⟨ms₁, m', ms₂, rfl, hm⟩ := mem_calls hlater
  obtain ⟨f, hwait, rfl, rfl⟩ := waits_of_wait hc ha hw hl hn hi
  refine ⟨ms₁, m', ms₂, rfl, hm, Classical.byContradiction fun hk => ?_⟩
  obtain ⟨f', -, h⟩ := hwait.unlanded (hc.move m) (ho.move hc m) hk
  exact h.silent ((ho.move hc m).run (hc.move m) ms₁) hm hb

theorem renewed_of_waited (hf : l.IsFresh) (ha : a ∈ (l.run ms).asked m) (hw : a.call = .wait)
    (hl : a.loop.locate a.target = .ok id) (hn : a.loop.service.get? id = some n) {k : Nat}
    (hi : n.inFlight = some k) {ms' : List Move} {b : Asked}
    (hab : Precedes ((l.run ms).calls (m :: ms')) a b) (hb : b.task = a.task) (hr : b.call.reads)
    (hlb : b.loop.locate b.target = .ok id) : Renewed l (ms ++ m :: ms') id k n.name b := by
  have hc : Coherent (l.run ms) := (Coherent.fresh hf).run ms
  have ho : Orderly (l.run ms) := (Orderly.fresh hf).run (.fresh hf) ms
  obtain ⟨ms₁, m', ms₂, rfl, hm, hk⟩ := landed_of_waited hc ho ha hw hl hn hi hab hb
  rw [show ms ++ m :: (ms₁ ++ m' :: ms₂) = (ms ++ m :: ms₁) ++ m' :: ms₂ by simp]
  refine renewed_of_landed hf ?_ hr hlb ?_ ?_
  · rw [run_append]
    exact hm
  · rw [run_append]
    exact run_asked_name ha hn (m :: ms₁)
  · rw [landings_append, landed_append, show m :: ms₁ = [m] ++ ms₁ from rfl, landings_append,
      landed_append]
    exact List.mem_append_right _ (List.mem_append_right _ hk)

theorem renewed_of_passed (hf : l.IsFresh) (ha : a ∈ (l.run ms).asked m)
    (hn : a.loop.service.get? id = some n) {k : Nat} (hk : k ∈ landed id (l.landings ms))
    {ms' : List Move} {b : Asked} (hab : Precedes ((l.run ms).calls (m :: ms')) a b)
    (hr : b.call.reads) (hlb : b.loop.locate b.target = .ok id) :
    Renewed l (ms ++ m :: ms') id k n.name b := by
  have hlater := hab.subset (List.mem_cons_of_mem a List.mem_cons_self)
  obtain ⟨ms₁, m', ms₂, he, hm⟩ := mem_calls hlater
  rw [he, ← List.append_assoc]
  refine renewed_of_landed hf ?_ hr hlb ?_ ?_
  · rwa [run_append]
  · rw [run_append]
    exact run_asked_name ha hn ms₁
  · rw [landings_append, landed_append]
    exact List.mem_append_left _ hk

theorem barrier (hf : l.IsFresh) (ha : a ∈ (l.run ms).asked m) (hw : a.call = .wait)
    (hl : a.loop.locate a.target = .ok id) (hn : a.loop.service.get? id = some n) :
    Barrier l ms m a id n := by
  have hc : Coherent (l.run ms) := (Coherent.fresh hf).run ms
  have ho : Orderly (l.run ms) := (Orderly.fresh hf).run (.fresh hf) ms
  have hrun : (l.run ms).move m = l.run (ms ++ [m]) := (run_concat l ms m).symm
  refine ⟨⟨?_, ?_⟩, answer?_of_idle ha hw hl hn, fun k ms' hi hk => ?_,
    fun ms' o h => answer_of_wait hc ho ha hw hl hn h, fun k ms' ms₁ ms₂ hi hk h₁ h₂ => ?_,
    fun k ms' b hi hab hb hr hlb => renewed_of_waited hf ha hw hl hn hi hab hb hr hlb,
    fun s n₀ ms' b hsa hrs hls hns hstale hab hb hr hlb => ?_⟩
  · simp [launch, hl, hn, hw, Call.reads]
  · rw [hw, ask_wait hl hn]
    split <;> rfl
  · obtain ⟨f, hwait, rfl, rfl⟩ := waits_of_wait hc ha hw hl hn hi
    obtain ⟨f', -, h⟩ := hwait.unlanded (hc.move m) (ho.move hc m) hk
    obtain ⟨t, ht⟩ := h.underWay
    exact ht.answer?_eq_none
  · obtain ⟨f, hwait, rfl, rfl⟩ := waits_of_wait hc ha hw hl hn hi
    obtain ⟨x, hx, hnum⟩ := List.mem_map.1 hk
    obtain ⟨hx, hs⟩ := List.mem_filter.1 hx
    rw [hrun] at hwait hx h₁ h₂ ⊢
    obtain hd | ⟨o, h⟩ := hwait.prompt hf hx (by simpa using hs) hnum h₁ h₂
    · exact .inl hd
    · right
      rw [← run_append, ← hrun] at h ⊢
      rw [h, answer_of_wait hc ho ha hw hl hn h]
  · have hbusy := busy_of_stale hls hns hrs hstale
    obtain hk | ⟨n', hn', hi⟩ := hbusy.since hf ha hsa
    · exact renewed_of_passed hf ha hn hk hab hr hlb
    · cases hn.symm.trans hn'
      exact renewed_of_waited hf ha hw hl hn hi hab hb hr hlb

end Barrier

def renewed : Snapshot := Table.empty.insert (Text.codePoints "KEY") (Text.codePoints "new")

def renewing : Loop :=
  start (Service.empty.adopt (.fresh (.scripted (.fresh .none false
    (.ofList [.ok .empty, .ok renewed]))) "store" (some 0) none)).1
    .offline 1000

theorem renewing_isFresh : renewing.IsFresh :=
  start_isFresh (Service.empty_isFresh.adopt (Namespace.fresh_isFresh _ _ _ _)) _ _

def rereading : List Move :=
  [.event (.begin 0 (.space 0) [.all]), .turn, .turn, .turn, .turn,
    .event (.begin 1 (.space 0) [.all, .wait, .all])]

/-- The refresh that the first read starts is what the wait waits for and the second read reads. -/
theorem barrier_renewing : ∃ a n, a ∈ (renewing.run rereading).asked .turn ∧ a.call = .wait ∧
    a.loop.locate a.target = .ok 0 ∧ a.loop.service.get? 0 = some n ∧ n.inFlight = some 1 ∧
    Barrier renewing rereading .turn a 0 n ∧
    ((renewing.run rereading).run
      [.turn, .event (.setInterval 0 none), .turn, .turn, .turn]).answer? 1 2 =
        some (.ok (.snapshot renewed)) := by
  have hold : Decimal.atLeast (Cached.age ⟨.empty, 1000⟩ 1000) 0 = true := by decide +kernel
  have hask : (renewing.run rereading).dequeue.ask (.space 0) .all = _ :=
    ask_of_stale rfl rfl rfl rfl rfl (by exact hold)
  have hmove : (renewing.run rereading).move .turn = _ :=
    move_of_stale (s := ⟨1, .space 0, [], [.all, .wait, .all]⟩) rfl rfl rfl rfl rfl rfl rfl rfl
      (by exact hold)
  have hasked : (renewing.run rereading).asked .turn =
      (renewing.run rereading).dequeue.asking 1 (.space 0) 0 [.all, .wait, .all] := rfl
  rw [asking, hask] at hasked
  have ha := hasked ▸ List.mem_cons_of_mem _ List.mem_cons_self
  refine ⟨_, _, ha, rfl, rfl, rfl, rfl, barrier renewing_isFresh ha rfl rfl rfl, ?_⟩
  rw [run_cons, hmove]
  rfl

end LiveConfig.Loop
