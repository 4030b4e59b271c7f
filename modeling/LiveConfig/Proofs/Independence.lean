import LiveConfig.Proofs.Separation
import LiveConfig.Proofs.Demand
set_option autoImplicit false

/-!
Namespaces are independent. When every task asks one namespace, a run is for each of them the same
as the run that is left when all that concerns the others is taken out of it.
-/
namespace LiveConfig.Loop

def Event.concerns (home : Nat → Nat) (id : Nat) : Event → Bool
  | .begin task _ _ | .cancel task => home task = id
  | .release space | .wake space | .respond space _ | .setInterval space _ => space = id
  | .setClock _ | .setWorld _ => true

namespace Agree
variable {home : Nat → Nat} {id : Nat} {l l' : Loop} {job : Job}

theorem perform (h : Agree home id l l') (hh : Housed home l) (hj : job.home home = id)
    (hw : ∀ j, job.waiter? = some j → home j = job.home home) :
    Agree home id (l.perform job) (l'.perform job) := by
  cases job with
  | run task =>
    rw [Loop.perform, Loop.perform, runTask, runTask, h.tasks task hj]
    split
    next t ht =>
      split
      · exact h.proceed (hj ▸ hh.tasks task t ht) task _ _
      · exact h
    next => exact h
  | fetch space number =>
    obtain rfl : space = id := hj
    exact h.runFetch number
  | notify task space fault => exact h.push _
  | resume task space fault =>
    have ht : home task = id := (hw task rfl).trans hj
    obtain rfl : space = id := hj
    rw [Loop.perform, Loop.perform, resumeTask, resumeTask, h.tasks task ht, h.space]
    split
    next t n htask hn =>
      split
      · exact h.proceed (ht ▸ hh.tasks task t htask) task _ _
      · exact h
    next => exact h

theorem perform_other (hh : Housed home l) (hj : job.home home ≠ id)
    (hw : ∀ j, job.waiter? = some j → home j = job.home home) :
    Agree home id l (l.perform job) := by
  cases job with
  | run task =>
    rw [Loop.perform, runTask]
    split
    next t ht =>
      split
      · exact proceed_other hj (hh.tasks task t ht) hj _ _
      · exact refl l
    next => exact refl l
  | fetch space number => exact runFetch_other hj l number
  | notify task space fault =>
    exact push_other (fun job hm => by rw [List.mem_singleton.1 hm]; exact hj) l
  | resume task space fault =>
    have ht : home task ≠ id := (hw task rfl).symm ▸ hj
    rw [Loop.perform, resumeTask]
    split
    next t n htask hn =>
      split
      · exact proceed_other ht (hh.tasks task t htask) ht _ _
      · exact refl l
    next => exact refl l

theorem apply (h : Agree home id l l') {e : Event} (he : e.concerns home id = true) :
    Agree home id (l.apply e) (l'.apply e) := by
  cases e with
  | begin task target calls => exact h.begin (of_decide_eq_true he) target calls
  | cancel task => exact h.cancel (of_decide_eq_true he)
  | release space =>
    obtain rfl : space = id := of_decide_eq_true he
    exact h.free _
  | wake space =>
    obtain rfl : space = id := of_decide_eq_true he
    exact h.free _
  | respond space answers => exact h.update space _
  | setClock clock => exact ⟨h.names, rfl, h.world, h.space, h.flights, h.queue, h.tasks⟩
  | setInterval space interval => exact h.update space _
  | setWorld world => exact ⟨h.names, h.clock, rfl, h.space, h.flights, h.queue, h.tasks⟩

theorem apply_other {e : Event} (he : e.concerns home id = false) (l : Loop) :
    Agree home id l (l.apply e) := by
  cases e with
  | begin task target calls => exact begin_other (of_decide_eq_false he) l target calls
  | cancel task => exact cancel_other (of_decide_eq_false he) l
  | release space => exact free_other (of_decide_eq_false he) l _
  | wake space => exact free_other (of_decide_eq_false he) l _
  | respond space answers => exact update_other (of_decide_eq_false he) l _
  | setClock clock => cases he
  | setInterval space interval => exact update_other (of_decide_eq_false he) l _
  | setWorld world => cases he

end Agree

structure Sole (home : Nat → Nat) (id : Nat) (l : Loop) : Prop where
  ready : ∀ job ∈ l.ready, job.home home = id
  fetches : ∀ f ∈ l.fetches, f.space = id

namespace Sole
variable {home : Nat → Nat} {id : Nat} {l l' : Loop}

theorem fresh (hf : l.IsFresh) : Sole home id l := by
  refine ⟨fun job hm => ?_, fun f hm => ?_⟩
  · rw [hf.ready] at hm; cases hm
  · rw [hf.fetches] at hm; cases hm

theorem queue_eq (h : Sole home id l) : l.queue home id = l.ready :=
  List.filter_eq_self.2 fun job hm => decide_eq_true (h.ready job hm)

theorem flights_eq (h : Sole home id l) : l.flights id = l.fetches :=
  List.filter_eq_self.2 fun f hm => decide_eq_true (h.fetches f hm)

/-- What is done for this namespace alone brings nothing for another. -/
theorem of_others (h : Sole home id l) (ho : ∀ i, i ≠ id → Agree home i l l') :
    Sole home id l' := by
  refine ⟨fun job hm => Decidable.byContradiction fun hne => ?_,
    fun f hm => Decidable.byContradiction fun hne => ?_⟩
  · have hq : job ∈ l'.queue home (job.home home) := List.mem_filter.2 ⟨hm, by simp⟩
    rw [(ho _ hne).queue] at hq
    exact hne (h.ready job (List.mem_filter.1 hq).1)
  · have hq : f ∈ l'.flights f.space := mem_flights.2 ⟨hm, rfl⟩
    rw [(ho _ hne).flights] at hq
    exact hne (h.fetches f (mem_flights.1 hq).1)

theorem apply (h : Sole home id l) {e : Event} (he : e.concerns home id = true) :
    Sole home id (l.apply e) := by
  have hother : ((l.apply e).ready = l.ready ∧ (l.apply e).fetches = l.fetches) ∨
      ∀ i, i ≠ id → e.concerns home i = false := by
    cases e with
    | setClock clock => exact .inl ⟨rfl, rfl⟩
    | setWorld world => exact .inl ⟨rfl, rfl⟩
    | _ =>
      refine .inr fun i hi => decide_eq_false fun hk => hi ?_
      exact hk.symm.trans (of_decide_eq_true he)
  obtain ⟨hr, hf⟩ | ho := hother
  · exact ⟨hr ▸ h.ready, hf ▸ h.fetches⟩
  · exact h.of_others fun i hi => .apply_other (ho i hi) l

theorem dequeue (h : Sole home id l) : Sole home id l.dequeue :=
  ⟨fun job hm => h.ready job (List.mem_of_mem_tail hm), h.fetches⟩

end Sole

def concerns (home : Nat → Nat) (id : Nat) (l : Loop) : Move → Bool
  | .turn => l.ready.head?.any fun job => job.home home = id
  | .event e => e.concerns home id

theorem visit?_ready {l : Loop} {m : Move} {v : Visited} (h : l.visit? m = some v) :
    m = .turn ∧ ∃ rest, l.ready = .fetch v.fetch.space v.fetch.number :: rest := by
  cases l.course m with
  | task job rest s turn ready stretch move asked visit => rw [visit] at h; cases h
  | fetch v' n rest turn ready found space progress clock move asked visit =>
    cases visit.symm.trans h
    exact ⟨turn, rest, ready⟩
  | quiet move asked visit => rw [visit] at h; cases h

section Move
variable {home : Nat → Nat} {id : Nat} {l l' : Loop} {m : Move}

/-- The backend of a namespace is visited in moves that are for it. -/
theorem visit?_filter (home : Nat → Nat) (id : Nat) (l : Loop) (m : Move) :
    (l.visit? m).toList.filter (·.fetch.space = id) =
      if l.concerns home id m then (l.visit? m).toList else [] := by
  cases h : l.visit? m with
  | none => simp
  | some v =>
    obtain ⟨rfl, rest, hr⟩ := visit?_ready h
    by_cases hs : v.fetch.space = id <;> simp [concerns, hr, Job.home, hs]

theorem Agree.move_other (hh : Housed home l) (hm : l.concerns home id m = false) :
    Agree home id l (l.move m) := by
  cases m with
  | event e => exact .apply_other hm l
  | turn =>
    cases hr : l.ready with
    | nil =>
      rw [Loop.move, step, hr]
      exact .refl l
    | cons job rest =>
      have hj : job.home home ≠ id := by simpa [concerns, hr] using hm
      have hd : Agree home id l l.dequeue := by
        refine ⟨rfl, rfl, rfl, rfl, rfl, ?_, fun _ _ => rfl⟩
        rw [Loop.queue, Loop.queue, Loop.dequeue, hr, List.tail_cons, List.filter_cons_of_neg]
        simpa using hj
      rw [show l.move .turn = l.dequeue.perform job from step_of_ready hr]
      exact hd.trans (.perform_other hh.dequeue hj (hh.news job (hr ▸ List.mem_cons_self)))

section Own
variable (h : Agree home id l l') (hh : Housed home l) (hh' : Housed home l')
  (hs : Sole home id l') (hm : l.concerns home id m = true)
include h hs

/-- A job that is for the namespace is next in both loops at the same time. -/
theorem ready_of_ready {job : Job} {rest : List Job} (hr : l.ready = job :: rest)
    (hj : job.home home = id) :
    (∃ rest', l'.ready = job :: rest') ∧ Agree home id l.dequeue l'.dequeue := by
  have hq : l.queue home id = job :: rest.filter fun j => j.home home = id := by
    rw [Loop.queue, hr, List.filter_cons_of_pos (by simpa using hj)]
  have hr' : l'.ready = job :: rest.filter fun j => j.home home = id :=
    hs.queue_eq.symm.trans (h.queue.trans hq)
  refine ⟨⟨_, hr'⟩, h.names, h.clock, h.world, h.space, h.flights, ?_, h.tasks⟩
  rw [Loop.queue, Loop.queue, Loop.dequeue, Loop.dequeue, hr, hr', List.tail_cons, List.tail_cons,
    List.filter_filter]
  simp only [Bool.and_self]

include hm

theorem visit?_own : l'.visit? m = l.visit? m := by
  cases m with
  | event e => rfl
  | turn =>
    cases hr : l.ready with
    | nil => simp [concerns, hr] at hm
    | cons job rest =>
      have hj : job.home home = id := by simpa [concerns, hr] using hm
      obtain ⟨⟨rest', hr'⟩, -⟩ := ready_of_ready h hs hr hj
      cases job with
      | fetch space number =>
        obtain rfl : space = id := hj
        simp only [visit?, hr, hr', h.findFetch? number, h.space, h.world, h.clock]
      | _ => simp only [visit?, hr, hr']

include hh hh'

theorem Agree.move : Agree home id (l.move m) (l'.move m) ∧ Sole home id (l'.move m) := by
  cases m with
  | event e => exact ⟨h.apply hm, hs.apply hm⟩
  | turn =>
    cases hr : l.ready with
    | nil => simp [concerns, hr] at hm
    | cons job rest =>
      have hj : job.home home = id := by simpa [concerns, hr] using hm
      have hw := hh.news job (hr ▸ List.mem_cons_self)
      obtain ⟨⟨rest', hr'⟩, hd⟩ := ready_of_ready h hs hr hj
      rw [show l.move .turn = l.dequeue.perform job from step_of_ready hr,
        show l'.move .turn = l'.dequeue.perform job from step_of_ready hr']
      refine ⟨hd.perform hh.dequeue hj hw, hs.dequeue.of_others fun i hi => ?_⟩
      exact .perform_other hh'.dequeue (fun he => hi (he.symm.trans hj)) hw

end Own

end Move

/-- What is left of a run when all is taken out that is not for the given namespace. -/
def restrict (home : Nat → Nat) (id : Nat) : Loop → List Move → List Move
  | _, [] => []
  | l, m :: ms =>
    if l.concerns home id m then m :: restrict home id (l.move m) ms
    else restrict home id (l.move m) ms

def Move.event? : Move → Option Event
  | .turn => none
  | .event e => some e

theorem restrict_events (home : Nat → Nat) (id : Nat) (l : Loop) (ms : List Move) :
    (restrict home id l ms).filterMap Move.event? =
      (ms.filterMap Move.event?).filter (Event.concerns home id) := by
  induction ms generalizing l with
  | nil => rfl
  | cons m ms ih =>
    rw [restrict]
    cases m with
    | turn =>
      split
      · exact ih _
      · exact ih _
    | event e =>
      have hc : l.concerns home id (.event e) = e.concerns home id := rfl
      rw [hc, List.filterMap_cons_some (show Move.event? (.event e) = some e from rfl)]
      cases he : e.concerns home id with
      | true =>
        rw [if_pos rfl, List.filter_cons_of_pos he, ← ih (l.move (.event e))]
        rfl
      | false =>
        rw [if_neg nofun, List.filter_cons_of_neg (by simp [he])]
        exact ih _

def Begins (home : Nat → Nat) (l : Loop) (ms : List Move) : Prop :=
  ∀ task target calls, .event (.begin task target calls) ∈ ms → l.Resides target (home task)

theorem run_restrict {home : Nat → Nat} {id : Nat} {l l' : Loop} (h : Agree home id l l')
    (hh : Housed home l) (hh' : Housed home l') (hs : Sole home id l') {ms : List Move}
    (hb : Begins home l ms) :
    Agree home id (l.run ms) (l'.run (restrict home id l ms)) ∧
      Sole home id (l'.run (restrict home id l ms)) ∧
      l'.visits (restrict home id l ms) = (l.visits ms).filter (·.fetch.space = id) := by
  induction ms generalizing l l' with
  | nil => exact ⟨h, hs, rfl⟩
  | cons m ms ih =>
    have hm : ∀ task target calls, m = .event (.begin task target calls) →
        l.Resides target (home task) := fun task target calls he =>
      hb task target calls (he ▸ List.mem_cons_self)
    have hnext : Begins home (l.move m) ms := fun task target calls hmem =>
      (hb task target calls (List.mem_cons_of_mem m hmem)).congr (l.run_names [m])
    rw [restrict]
    cases hc : l.concerns home id m with
    | true =>
      have hm' : ∀ task target calls, m = .event (.begin task target calls) →
          l'.Resides target (home task) := fun task target calls he =>
        (hm task target calls he).congr h.names
      obtain ⟨ha, hs'⟩ := h.move hh hh' hs hc
      obtain ⟨hr, hsr, hv⟩ := ih ha (hh.move hm) (hh'.move hm') hs' hnext
      rw [if_pos rfl]
      refine ⟨hr, hsr, ?_⟩
      rw [visits, visits, List.filter_append, visit?_filter home, hc, hv, visit?_own h hs hc]
      rfl
    | false =>
      obtain ⟨hr, hsr, hv⟩ := ih ((Agree.move_other hh hc).symm.trans h) (hh.move hm) hh' hs hnext
      rw [if_neg Bool.false_ne_true]
      refine ⟨hr, hsr, ?_⟩
      rw [visits, List.filter_append, visit?_filter home, hc, hv]
      rfl

/-- What it means that a namespace is independent of the others. Beside the run there is the one
that is left when the tasks, the cancellations and the backends of the others are taken out; from
outside comes the rest, in its order. In both the namespace ends up the same, with its snapshot, its
slot and its backend; its tasks have got as far, with the same answers; the same fetches are under
way, and the same jobs are to be done; the same fetches were started, have come to the backend and
have ended there in the same way, at the same times. -/
structure Independence (home : Nat → Nat) (id : Nat) (l : Loop) (ms : List Move) : Prop where
  events : (restrict home id l ms).filterMap Move.event? =
    (ms.filterMap Move.event?).filter (Event.concerns home id)
  space : (l.run (restrict home id l ms)).service.get? id = (l.run ms).service.get? id
  tasks : ∀ j, home j = id →
    (l.run (restrict home id l ms)).tasks.get? j = (l.run ms).tasks.get? j
  fetches : (l.run (restrict home id l ms)).fetches = (l.run ms).flights id
  ready : (l.run (restrict home id l ms)).ready = (l.run ms).queue home id
  visits : l.visits (restrict home id l ms) = (l.visits ms).filter (·.fetch.space = id)
  launched : launched id (l.calls (restrict home id l ms)) = launched id (l.calls ms)

theorem independence {l : Loop} (hf : l.IsFresh) {home : Nat → Nat} {ms : List Move}
    (hb : Begins home l ms) (id : Nat) : Independence home id l ms := by
  obtain ⟨ha, hs, hv⟩ := run_restrict (.refl l) (.fresh hf) (.fresh hf) (.fresh hf) hb
  refine ⟨restrict_events home id l ms, ha.space, ha.tasks, hs.flights_eq.symm.trans ha.flights,
    hs.queue_eq.symm.trans ha.queue, hv, ?_⟩
  have hstarted : (l.run (restrict home id l ms)).started id = (l.run ms).started id := by
    rw [started, started, ha.space]
  have hr' := l.run_started (restrict home id l ms) id
  rw [hstarted, ← l.run_started ms id] at hr'
  exact List.append_cancel_left hr'

def pair : Loop :=
  start ((Service.empty.adopt (.fresh (.scripted (.fresh .hold false (.ofList [.error .rejected])))
    "held" (some 0) none)).1.adopt (.fresh (.scripted (.fresh .none false (.ofList [.ok .empty])))
    "open" (some 0) none)).1 .offline 1000

theorem pair_isFresh : pair.IsFresh :=
  start_isFresh ((Service.empty_isFresh.adopt (Namespace.fresh_isFresh _ _ _ _)).adopt
    (Namespace.fresh_isFresh _ _ _ _)) _ _

def mixed : List Move :=
  [.event (.begin 0 (.space 0) [.all]), .event (.begin 2 (.space 0) [.get "KEY"]),
    .event (.begin 1 (.space 1) [.all, .isStale]), .turn, .turn, .turn, .turn, .turn,
    .event (.cancel 0), .event (.setClock 2000), .turn, .event (.release 0), .turn, .turn]

theorem begins_mixed : Begins (· % 2) pair mixed := by
  intro task target calls h k hk
  simp only [mixed, List.mem_cons, Move.event.injEq, Event.begin.injEq, List.not_mem_nil,
    reduceCtorEq, or_false] at h
  obtain ⟨rfl, rfl, -⟩ | ⟨rfl, rfl, -⟩ | ⟨rfl, rfl, -⟩ := h <;> cases hk <;> rfl

/-- The task of the store that answers has its answers while the others still wait. Of fourteen
moves six are for it. -/
theorem independence_mixed : pair.IsFresh ∧ Begins (· % 2) pair mixed ∧
    Independence (· % 2) 1 pair mixed ∧ (restrict (· % 2) 1 pair mixed).length = 6 ∧
    (pair.run mixed).answer? 1 0 = some (.ok (.snapshot .empty)) ∧
    (pair.run mixed).answer? 2 0 = none :=
  ⟨pair_isFresh, begins_mixed, independence pair_isFresh begins_mixed 1, rfl, rfl, rfl⟩

end LiveConfig.Loop
