import LiveConfig.Command.Run
import LiveConfig.Proofs.Fallback
import LiveConfig.Proofs.Landing
set_option autoImplicit false

/-!
Errands: a task is sent to one namespace that nobody has asked before, and the loop settles. Behind
a backend that ends every fetch at once this takes four turns, of which one is at the backend.
-/
namespace LiveConfig

namespace Backend

def Prompt (b : Backend) : Prop := b.double? = none

theorem Prompt.free {b : Backend} (h : b.Prompt) (f : Scripted → Scripted × List Nat) :
    b.free f = (b, []) := by
  induction b with
  | scripted double => cases h
  | extension endpoint fallback ih => rw [Backend.free, ih h]
  | _ => rfl

theorem Prompt.advance {b : Backend} (h : b.Prompt) (w : World) (visit : Nat) (storeId : String) :
    ∃ b' outcome entries, b.advance w visit .arriving storeId = ⟨(b', .ends outcome), entries⟩ ∧
      b'.Prompt := by
  induction b with
  | secrets client => exact ⟨_, _, _, rfl, rfl⟩
  | parameters client => exact ⟨_, _, _, rfl, rfl⟩
  | cache address => exact ⟨_, _, _, rfl, rfl⟩
  | empty => exact ⟨_, _, _, rfl, rfl⟩
  | scripted double => cases h
  | extension endpoint fallback ih =>
    cases ha : (endpoint.attempt w storeId).value with
    | ok s => exact ⟨_, _, _, advance_served ha, h⟩
    | error f =>
      cases hf : Extension.fallsBack f with
      | false => exact ⟨_, _, _, advance_escaped ha hf, h⟩
      | true =>
        obtain ⟨fallback', outcome, entries, hb, hp⟩ := ih h
        have hturn : (Backend.extension endpoint fallback).advance w visit .arriving storeId = _ :=
          advance_handed ha hf
        rw [hb] at hturn
        exact ⟨_, _, _, hturn, hp⟩

theorem select_prompt (s : Surroundings) (platform : Platform) (kind : Option String) :
    (select s platform kind).value.Prompt := by
  cases platform with
  | aws =>
    rw [select, Journaled.value_bind, Journaled.value_pure]
    cases (StoreKind.read kind).value with
    | parameters => rfl
    | secrets =>
      rw [forCloud]
      split <;> rfl
  | _ => rfl

end Backend

namespace Loop

def wakes (l : Loop) : List Move :=
  (List.range l.service.namespaces.length).map fun id => .event (.wake id)

def settlingFor : Nat → Loop → List Move
  | 0, _ => []
  | fuel + 1, l =>
    if l.ready.isEmpty then
      l.wakes ++ if l.wakeAll.ready.isEmpty then [] else settlingFor fuel l.wakeAll
    else .turn :: settlingFor fuel l.step

def settling (l : Loop) : List Move := settlingFor l.work l

theorem run_wakes (l : Loop) : l.run l.wakes = l.wakeAll := by
  rw [run, wakes, List.foldl_map]
  rfl

theorem run_settlingFor (fuel : Nat) (l : Loop) :
    l.run (settlingFor fuel l) = settleFor fuel l := by
  induction fuel generalizing l with
  | zero => rfl
  | succ fuel ih =>
    rw [settlingFor, settleFor]
    split
    · rw [run_append, run_wakes]
      dsimp only
      split
      · rfl
      · exact ih l.wakeAll
    · exact ih l.step

theorem run_settling (l : Loop) : l.run l.settling = l.settle := run_settlingFor l.work l

theorem visits_wakes (l m : Loop) : m.visits l.wakes = [] := by
  rw [wakes]
  induction List.range l.service.namespaces.length generalizing m with
  | nil => rfl
  | cons id ids ih => exact ih _

theorem update_const {l : Loop} {id : Nat} {n : Namespace} (hn : l.service.get? id = some n)
    {f : Namespace → Namespace} (hf : f n = n) : l.update id f = l := by
  have hs : l.service.namespaces.modify id f = l.service.namespaces := by
    refine List.ext_getElem? fun j => ?_
    rw [List.getElem?_modify]
    split
    next h =>
      subst h
      rw [show l.service.namespaces[id]? = some n from hn]
      exact congrArg some hf
    next => exact Option.map_id'
  rw [update, Service.update, hs]

theorem wakeAll_of_prompt {l : Loop}
    (h : ∀ id n, l.service.get? id = some n → n.backend.Prompt) : l.wakeAll = l := by
  have hwake : ∀ id, l.apply (.wake id) = l := by
    intro id
    rw [apply, free]
    split
    next n hn =>
      rw [(h id n hn).free]
      dsimp only
      rw [update_const hn rfl, push, List.map_nil, List.append_nil]
    next => rfl
  rw [wakeAll]
  induction List.range l.service.namespaces.length with
  | nil => rfl
  | cons id ids ih => rw [List.foldl_cons, hwake, ih]

def errandFetch (id number task : Nat) : Fetch := ⟨id, number, false, .arriving, [task]⟩

section Turns
variable {l : Loop} {id number task : Nat} {n : Namespace}

/-- The task asks, and waits for the fetch that this starts. -/
theorem step_ask (hr : l.ready = [.run task])
    (ht : l.tasks.get? task = some ⟨.space id, [.all], [], .ready⟩) (hf : l.fetches = [])
    (hn : l.service.get? id = some n) (hc : n.cached = none) (hi : n.inFlight = none) :
    l.step =
      { l with
        service := l.service.update id Namespace.startFetch
        tasks := l.tasks.insert task ⟨.space id, [.all], [], .waiting⟩
        fetches := [errandFetch id n.started task]
        ready := [.fetch id n.started]
        entries := l.entries ++ [.said (.firstFetch n.name n.storeId)] } := by
  simp [step, hr, perform, runTask, ht, proceed, ask, locate, hn, begin, Call.look?, access, hc,
    hi, startFetch, say, write, update, join, replaceFetch, setTask, hf, errandFetch]

/-- The fetch ends. The task is to be told, and what it will then be answered is the outcome. -/
theorem step_fetch (hr : l.ready = [.fetch id number])
    (hf : l.fetches = [errandFetch id number task]) (hn : l.service.get? id = some n) {b : Backend}
    {outcome : Except Fault Snapshot} {es : List Entry}
    (hb : n.backend.advance l.world number .arriving n.storeId = ⟨(b, .ends outcome), es⟩) :
    ∃ n' fault service entries,
      l.step =
          { l with
            service := service
            fetches := []
            ready := [.notify task id fault]
            entries := entries } ∧
        (∀ j, service.get? j = if id = j then some n' else l.service.get? j) ∧
        n'.backend = b ∧ conclude n' .all fault = outcome.map .snapshot := by
  have hfind : l.dequeue.findFetch? id number = some (errandFetch id number task) := by
    simp [findFetch?, dequeue, hf, errandFetch]
  have hstep : l.step = (l.dequeue.visited id ⟨(b, .ends outcome), es⟩).finish
      (errandFetch id number task) outcome := by
    have hb' : n.backend.advance l.dequeue.world number (errandFetch id number task).stage
      n.storeId = ⟨(b, .ends outcome), es⟩ := hb
    rw [step_of_ready hr, perform, runFetch_ends hfind hn (congrArg (fun x => x.value.2) hb'), hb']
  have hspace := visited_get? (l := l.dequeue) hn ⟨(b, .ends outcome), es⟩
  refine ⟨({ n with backend := b } : Namespace).land false outcome l.clock,
    (errandFetch id number task).news outcome, l.step.service, l.step.entries, ?_, fun j => ?_, ?_,
    ?_⟩
  · rw [hstep]
    cases outcome <;> simp [finish, visited, say, write, update, push, removeFetch, dequeue,
      errandFetch, Fetch.news, hr, hf, hn]
  · have hland := finish_get? (f := errandFetch id number task) outcome
      ((hspace id).trans (if_pos rfl)) j
    rw [hstep, hland, hspace j]
    by_cases h : id = j
    · simp only [errandFetch, if_pos h]
      rfl
    · simp only [errandFetch, if_neg h]
      rfl
  · cases outcome <;> rfl
  · cases outcome <;> rfl

theorem visit?_fetch (hr : l.ready = [.fetch id number])
    (hf : l.fetches = [errandFetch id number task]) (hn : l.service.get? id = some n) {b : Backend}
    {outcome : Except Fault Snapshot} {es : List Entry}
    (hb : n.backend.advance l.world number .arriving n.storeId = ⟨(b, .ends outcome), es⟩) :
    l.visit? .turn = some ⟨errandFetch id number task, .ends outcome, l.clock⟩ := by
  have hfind : l.findFetch? id number = some (errandFetch id number task) := by
    simp [findFetch?, hf, errandFetch]
  simp only [visit?, hr, hfind, hn]
  rw [show (errandFetch id number task).stage = .arriving from rfl, hb]

theorem visit?_of_task {job : Job} {rest : List Job} (hr : l.ready = job :: rest)
    (hj : ∀ space number, job ≠ .fetch space number) : l.visit? .turn = none := by
  rw [visit?, hr]
  cases job with
  | fetch space number => exact absurd rfl (hj space number)
  | _ => rfl

theorem step_notify {fault : Option Fault} (hr : l.ready = [.notify task id fault]) :
    l.step = { l with ready := [.resume task id fault] } := by
  simp [step, hr, perform, push]

/-- The task reads what is there now, or fails with the fetch, and is done. -/
theorem step_resume {fault : Option Fault} (hr : l.ready = [.resume task id fault])
    (ht : l.tasks.get? task = some ⟨.space id, [.all], [], .waiting⟩)
    (hn : l.service.get? id = some n) :
    l.step =
      { l with
        tasks := l.tasks.insert task ⟨.space id, [], [conclude n .all fault], .finished⟩
        ready := [] } := by
  simp [step, hr, perform, resumeTask, ht, hn, proceed, setTask]

end Turns

/-- Nothing is under way, and nothing could be held back. -/
structure Idle (l : Loop) : Prop where
  ready : l.ready = []
  fetches : l.fetches = []
  tasks : l.tasks.keys = List.range l.tasks.size
  prompt : ∀ id n, l.service.get? id = some n → n.backend.Prompt

namespace Idle
variable {l l' : Loop}

theorem freshTask (h : l.Idle) : l.freshTask ∉ l.tasks.keys := by
  rw [h.tasks, List.mem_range]
  exact Nat.lt_irrefl _

theorem begin (h : l.Idle) (target : Target) (calls : List Call) :
    l.apply (.begin l.freshTask target calls) =
      { l with
        tasks := l.tasks.insert l.freshTask ⟨target, calls, [], .ready⟩
        ready := [.run l.freshTask] } := by
  have hnew : l.tasks.contains l.freshTask = false := by
    rw [← Bool.not_eq_true, Table.contains_eq_true_iff]
    exact h.freshTask
  simp [apply, hnew, setTask, push, h.ready]

/-- One task more and a change of one namespace leave nothing under way. -/
theorem next (h : l.Idle) {id : Nat} {n : Namespace} (hr : l'.ready = []) (hf : l'.fetches = [])
    (ht : l'.tasks.keys = l.tasks.keys ++ [l.freshTask])
    (hs : ∀ j, l'.service.get? j = if id = j then some n else l.service.get? j)
    (hp : n.backend.Prompt) : l'.Idle := by
  refine ⟨hr, hf, ?_, fun j m hm => ?_⟩
  · rw [← Table.length_keys, ht, List.length_append, List.length_singleton, List.range_succ,
      Table.length_keys, h.tasks]
    rfl
  · rw [hs j] at hm
    split at hm
    next => cases hm; exact hp
    next => exact h.prompt j m hm

end Idle

structure Settles (l : Loop) (fuel : Nat) (l' : Loop) (vs : List Visited) : Prop where
  settle : settleFor fuel l = l'
  visits : l.visits (settlingFor fuel l) = vs

theorem Settles.idle {l : Loop} (h : l.Idle) (fuel : Nat) : l.Settles (fuel + 1) l [] := by
  have hmoves : settlingFor (fuel + 1) l = l.wakes := by
    rw [settlingFor, wakeAll_of_prompt h.prompt, h.ready]
    exact List.append_nil _
  refine ⟨?_, by rw [hmoves, visits_wakes]⟩
  rw [← run_settlingFor, hmoves, run_wakes, wakeAll_of_prompt h.prompt]

theorem Settles.turn {l l' : Loop} {job : Job} {rest : List Job} (hr : l.ready = job :: rest)
    {fuel : Nat} {vs : List Visited} (h : l.step.Settles fuel l' vs) :
    l.Settles (fuel + 1) l' ((l.visit? .turn).toList ++ vs) := by
  have hmoves : settlingFor (fuel + 1) l = .turn :: settlingFor fuel l.step := by
    rw [settlingFor, hr]
    rfl
  refine ⟨?_, ?_⟩
  · rw [← h.settle, ← run_settlingFor, ← run_settlingFor, hmoves]
    rfl
  · rw [hmoves, ← h.visits]
    rfl

/-- What an errand leaves behind: the answer, and nothing under way. No other namespace is
touched. -/
structure Errand (l l' : Loop) (id : Nat) (outcome : Except Fault Snapshot) : Prop where
  idle : l'.Idle
  world : l'.world = l.world
  others : ∀ j, id ≠ j → l'.service.get? j = l.service.get? j
  answer : l'.tasks.get? l.freshTask =
    some ⟨.space id, [], [outcome.map .snapshot], .finished⟩

/-- Once its fetch stands in the queue, the task is done after three turns. -/
theorem settles_of_fetch {l : Loop} {id number task : Nat} {n : Namespace}
    (hr : l.ready = [.fetch id number]) (hf : l.fetches = [errandFetch id number task])
    (ht : l.tasks.get? task = some ⟨.space id, [.all], [], .waiting⟩)
    (hn : l.service.get? id = some n) {b : Backend} {outcome : Except Fault Snapshot}
    {es : List Entry}
    (hb : n.backend.advance l.world number .arriving n.storeId = ⟨(b, .ends outcome), es⟩) :
    ∃ l' n' service entries,
      l' =
          { l with
            service := service
            tasks := l.tasks.insert task ⟨.space id, [], [outcome.map .snapshot], .finished⟩
            fetches := []
            ready := []
            entries := entries } ∧
        (∀ j, service.get? j = if id = j then some n' else l.service.get? j) ∧ n'.backend = b ∧
        (l'.Idle → ∀ fuel,
          l.Settles (fuel + 4) l' [⟨errandFetch id number task, .ends outcome, l.clock⟩]) := by
  obtain ⟨n', fault, service, entries, h₁, hspace, hbackend, hanswer⟩ := step_fetch hr hf hn hb
  have r₁ : l.step.ready = [.notify task id fault] := by rw [h₁]
  have h₂ := step_notify r₁
  have r₂ : l.step.step.ready = [.resume task id fault] := by rw [h₂]
  have h₃ := step_resume r₂ (by rw [h₂, h₁]; exact ht)
    (by rw [h₂, h₁]; exact (hspace id).trans (if_pos rfl))
  rw [hanswer] at h₃
  refine ⟨l.step.step.step, n', service, entries, by rw [h₃, h₂, h₁], hspace, hbackend,
    fun hidle fuel => ?_⟩
  have hsettles := (((Settles.idle hidle fuel).turn r₂).turn r₁).turn hr
  rwa [visit?_fetch hr hf hn hb, visit?_of_task r₁ nofun, visit?_of_task r₂ nofun] at hsettles

theorem errand {l : Loop} {id : Nat} {n : Namespace} (h : l.Idle)
    (hn : l.service.get? id = some n) (hc : n.cached = none) (hi : n.inFlight = none) {b : Backend}
    {outcome : Except Fault Snapshot} {es : List Entry}
    (hb : n.backend.advance l.world n.started .arriving n.storeId = ⟨(b, .ends outcome), es⟩)
    (hp : b.Prompt) :
    let begun := l.apply (.begin l.freshTask (.space id) [.all])
    Errand l begun.settle id outcome ∧
      begun.visits begun.settling =
        [⟨errandFetch id n.started l.freshTask, .ends outcome, l.clock⟩] := by
  intro begun
  have h₁ : begun = _ := h.begin (.space id) [.all]
  clear_value begun
  have hr : begun.ready = [.run l.freshTask] := by rw [h₁]
  have ht : begun.tasks.get? l.freshTask = some ⟨.space id, [.all], [], .ready⟩ := by simp [h₁]
  have h₂ := step_ask hr ht (by rw [h₁, h.fetches]) (by rw [h₁]; exact hn) hc hi
  obtain ⟨l', n', service, entries, hl', hspace, hbackend, hsettles⟩ :=
    settles_of_fetch (l := begun.step) (n := n.startFetch) (by rw [h₂]) (by rw [h₂])
      (by rw [h₂]; simp) (by rw [h₂, h₁]; simp [hn]) (by rw [h₂, h₁]; exact hb)
  have hservice : ∀ j, l'.service.get? j = if id = j then some n' else l.service.get? j := by
    intro j
    rw [hl', hspace j, h₂, h₁]
    split <;> simp [*]
  have hidle : l'.Idle := h.next (by rw [hl']) (by rw [hl'])
    (by rw [hl', h₂, h₁]; simp [Table.keys_insert, h.freshTask]) hservice (hbackend.symm ▸ hp)
  -- Four turns are for the task and its fetch; one more finds that nothing is left to do.
  obtain ⟨k, hk⟩ : ∃ k, begun.work = k + 5 := ⟨begun.work - 5, by rw [work]; omega⟩
  have hturns := (hsettles hidle k).turn hr
  rw [visit?_of_task hr (fun _ _ he => by cases he), ← hk] at hturns
  refine ⟨⟨?_, ?_, ?_, ?_⟩, hturns.visits.trans ?_⟩
  · rwa [settle, hturns.settle]
  · rw [settle, hturns.settle, hl', h₂, h₁]
  · rw [settle, hturns.settle]
    exact fun j hj => (hservice j).trans (if_neg hj)
  · rw [settle, hturns.settle, hl']
    simp
  · rw [h₂, h₁]
    rfl

end Loop

end LiveConfig
