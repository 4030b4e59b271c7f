import LiveConfig.Proofs.Ask
set_option autoImplicit false

/-!
What a move comes to. A task goes on, a fetch has its turn, or nothing happens that a namespace
could tell.
-/
namespace LiveConfig

def Namespace.core (n : Namespace) : Namespace := { n with interval := none, backend := .empty }

theorem Namespace.core_eq_iff {n n' : Namespace} : n.core = n'.core ↔
    n.name = n'.name ∧ n.storeId = n'.storeId ∧ n.handler = n'.handler ∧ n.cached = n'.cached ∧
      n.inFlight = n'.inFlight ∧ n.started = n'.started ∧ n.reported = n'.reported := by
  simp [core]

def Backend.counts (b : Backend) : Option (List String × Nat × Nat) :=
  b.double?.map fun d => (d.calls, d.inFlight, d.maxInFlight)

theorem Backend.counts_onDouble (b : Backend) {f : Scripted → Scripted}
    (hf : ∀ d, (f d).calls = d.calls ∧ (f d).inFlight = d.inFlight ∧
      (f d).maxInFlight = d.maxInFlight) : (b.onDouble f).counts = b.counts := by
  induction b with
  | scripted d => simp [onDouble, counts, double?, hf d]
  | extension endpoint fallback ih => exact ih
  | _ => rfl

theorem Backend.free_fst (b : Backend) (f : Scripted → Scripted × List Nat) :
    (b.free f).1 = b.onDouble fun d => (f d).1 := by
  induction b with
  | extension endpoint fallback ih => simp [free, onDouble, ih]
  | _ => rfl

def Job.sequel : Job → List Job
  | .notify task space fault => [.resume task space fault]
  | .run _ | .fetch _ _ | .resume _ _ _ => []

def Fetch.key (f : Fetch) : Nat × Nat × Bool := (f.space, f.number, f.background)

namespace Loop

structure Quiet (l l' : Loop) : Prop where
  core : ∀ id, (l'.service.get? id).map Namespace.core = (l.service.get? id).map Namespace.core
  key : l'.fetches.map Fetch.key = l.fetches.map Fetch.key

namespace Quiet

theorem of_eq {l l' : Loop} (hs : l'.service = l.service) (hf : l'.fetches = l.fetches) :
    Quiet l l' := ⟨fun id => by rw [hs], by rw [hf]⟩

theorem symm {l l' : Loop} (h : Quiet l l') : Quiet l' l := ⟨fun id => (h.core id).symm, h.key.symm⟩

theorem trans {l l' l'' : Loop} (h : Quiet l l') (h' : Quiet l' l'') : Quiet l l'' :=
  ⟨fun id => (h'.core id).trans (h.core id), h'.key.trans h.key⟩

theorem exists_core {l l' : Loop} (h : Quiet l l') {id : Nat} {n' : Namespace}
    (hn : l'.service.get? id = some n') : ∃ n, l.service.get? id = some n ∧ n.core = n'.core := by
  have hc := h.core id
  rw [hn, Option.map_some, eq_comm, Option.map_eq_some_iff] at hc
  exact hc

end Quiet

theorem map_replaceFetch (l : Loop) (space number : Nat) (f : Fetch → Fetch) {α : Type}
    (g : Fetch → α) (hg : ∀ x, g (f x) = g x) :
    (l.replaceFetch space number f).fetches.map g = l.fetches.map g := by
  simp only [replaceFetch, List.map_map]
  refine List.map_congr_left fun x _ => ?_
  simp only [Function.comp_apply]
  split
  · exact hg x
  · rfl

structure Still (l l' : Loop) : Prop extends Quiet l l' where
  counts : ∀ id, (l'.service.get? id).map (·.backend.counts) =
    (l.service.get? id).map (·.backend.counts)
  stage : l'.fetches.map (fun f => (f.space, f.number, f.stage)) =
    l.fetches.map (fun f => (f.space, f.number, f.stage))

namespace Still

theorem of_eq {l l' : Loop} (hs : l'.service = l.service) (hf : l'.fetches = l.fetches) :
    Still l l' := ⟨.of_eq hs hf, fun id => by rw [hs], by rw [hf]⟩

theorem refl (l : Loop) : Still l l := of_eq rfl rfl

theorem trans {l l' l'' : Loop} (h : Still l l') (h' : Still l' l'') : Still l l'' :=
  ⟨h.toQuiet.trans h'.toQuiet, fun id => (h'.counts id).trans (h.counts id),
    h'.stage.trans h.stage⟩

theorem update (l : Loop) (id : Nat) (f : Namespace → Namespace) (hf : ∀ n, (f n).core = n.core)
    (hc : ∀ n, (f n).backend.counts = n.backend.counts) : Still l (l.update id f) :=
  ⟨⟨fun j => l.service.map_get?_update id j f hf, rfl⟩,
    fun j => l.service.map_get?_update id j f hc, rfl⟩

theorem join (l : Loop) (space number task : Nat) : Still l (l.join space number task) :=
  ⟨⟨fun _ => rfl, l.map_replaceFetch space number _ _ fun _ => rfl⟩, fun _ => rfl,
    l.map_replaceFetch space number _ _ fun _ => rfl⟩

theorem onDouble (l : Loop) (space : Nat) {f : Scripted → Scripted}
    (hf : ∀ d, (f d).calls = d.calls ∧ (f d).inFlight = d.inFlight ∧
      (f d).maxInFlight = d.maxInFlight) :
    Still l (l.update space fun n => { n with backend := n.backend.onDouble f }) :=
  update l space _ (fun _ => rfl) fun n => n.backend.counts_onDouble hf

theorem free (l : Loop) (space : Nat) {f : Scripted → Scripted × List Nat}
    (hf : ∀ d, (f d).1.calls = d.calls ∧ (f d).1.inFlight = d.inFlight ∧
      (f d).1.maxInFlight = d.maxInFlight) : Still l (l.free space f) := by
  unfold Loop.free
  split
  next n hn =>
    have he : l.update space (fun m => { m with backend := (n.backend.free f).1 }) =
        l.update space fun m => { m with backend := m.backend.onDouble fun d => (f d).1 } := by
      simp only [Loop.update, Service.update, Backend.free_fst]
      congr 2
      refine List.ext_getElem? fun j => ?_
      simp only [List.getElem?_modify]
      by_cases hj : space = j
      · subst hj
        rw [show l.service.namespaces[space]? = some n from hn]
        simp
      · simp [hj]
    have hu := onDouble l space (f := fun d => (f d).1) hf
    rw [← he] at hu
    exact hu.trans (of_eq rfl rfl)
  · exact refl l

theorem release (d : Scripted) : d.release.1.calls = d.calls ∧
    d.release.1.inFlight = d.inFlight ∧ d.release.1.maxInFlight = d.maxInFlight := by
  unfold Scripted.release
  split <;> exact ⟨rfl, rfl, rfl⟩

theorem cancel (l : Loop) (task : Nat) : Still l (l.cancel task) := by
  unfold Loop.cancel
  split
  · split
    · exact refl l
    · exact of_eq rfl rfl
  · exact refl l

theorem apply (l : Loop) (e : Event) : Still l (l.apply e) := by
  cases e with
  | begin task target calls =>
    rw [Loop.apply]
    split
    · exact refl l
    · exact of_eq rfl rfl
  | cancel task => exact cancel l task
  | release space => exact free l space release
  | wake space => exact free l space fun _ => ⟨rfl, rfl, rfl⟩
  | respond space answers => exact onDouble l space fun _ => ⟨rfl, rfl, rfl⟩
  | setClock clock => exact of_eq rfl rfl
  | setInterval space interval => exact update l space _ (fun _ => rfl) fun _ => rfl
  | setWorld world => exact of_eq rfl rfl

end Still

theorem apply_fetches (l : Loop) (e : Event) : (l.apply e).fetches = l.fetches := by
  have hfree : ∀ space f, (l.free space f).fetches = l.fetches := fun space f => by
    unfold free
    split <;> rfl
  cases e with
  | begin task target calls => rw [apply]; split <;> rfl
  | cancel task =>
    rw [apply, cancel]
    split
    · split <;> rfl
    · rfl
  | release space => exact hfree space _
  | wake space => exact hfree space _
  | _ => rfl

theorem runTask_eq (l : Loop) (task : Nat) :
    l.runTask task =
      match l.stretch? (.run task) with
      | some s => l.proceed s.task s.target s.answers s.calls
      | none => l := by
  simp only [runTask, stretch?]
  cases l.tasks.get? task with
  | none => rfl
  | some t => by_cases h : t.state = .ready <;> simp [h]

theorem resumeTask_eq (l : Loop) (task space : Nat) (fault : Option Fault) :
    l.resumeTask task space fault =
      match l.stretch? (.resume task space fault) with
      | some s => l.proceed s.task s.target s.answers s.calls
      | none => l := by
  simp only [resumeTask, stretch?]
  cases l.tasks.get? task with
  | none => rfl
  | some t =>
    cases l.service.get? space with
    | none => rfl
    | some n => cases hs : t.state <;> cases hc : t.calls <;> simp [hs, hc]

/-- What a move comes to: a task goes on, a fetch has its turn, or neither. -/
inductive Course (l : Loop) (m : Move) : Prop where
  | task (job : Job) (rest : List Job) (s : Stretch) (turn : m = .turn)
      (ready : l.ready = job :: rest) (stretch : l.stretch? job = some s)
      (move : l.move m = l.dequeue.proceed s.task s.target s.answers s.calls)
      (asked : l.asked m = l.dequeue.asking s.task s.target s.answers.length s.calls)
      (visit : l.visit? m = none)
  | fetch (v : Visited) (n : Namespace) (rest : List Job) (turn : m = .turn)
      (ready : l.ready = .fetch v.fetch.space v.fetch.number :: rest)
      (found : l.findFetch? v.fetch.space v.fetch.number = some v.fetch)
      (space : l.service.get? v.fetch.space = some n)
      (progress : (n.backend.advance l.world v.fetch.number v.fetch.stage n.storeId).value.2 =
        v.progress)
      (clock : v.clock = l.clock)
      (move : l.move m = l.dequeue.runFetch v.fetch.space v.fetch.number)
      (asked : l.asked m = []) (visit : l.visit? m = some v)
  | quiet (move : Still l (l.move m)) (asked : l.asked m = []) (visit : l.visit? m = none)
      (fetches : (l.move m).fetches = l.fetches)
      (turn : m = .turn → (l.move m).service = l.service ∧ (l.move m).tasks = l.tasks ∧
        (l.move m).ready = l.ready.tail ++ l.ready.head?.toList.flatMap Job.sequel)

theorem course_of_stretch {l : Loop} {job : Job} {rest : List Job} (hr : l.ready = job :: rest)
    (hp : l.dequeue.perform job =
      match l.stretch? job with
      | some s => l.dequeue.proceed s.task s.target s.answers s.calls
      | none => l.dequeue)
    (hj : job.sequel = []) (hv : l.visit? .turn = none) : Course l .turn := by
  have hm : l.move .turn = l.dequeue.perform job := step_of_ready hr
  rw [hp] at hm
  cases hs : l.stretch? job with
  | some s =>
    rw [hs] at hm
    exact .task job rest s rfl hr hs hm (by simp [asked, hr, hs]) hv
  | none =>
    rw [hs] at hm
    exact .quiet (hm ▸ .of_eq rfl rfl) (by simp [asked, hr, hs]) hv (hm ▸ rfl)
      fun _ => hm ▸ ⟨rfl, rfl, by simp [dequeue, hr, hj]⟩

theorem course (l : Loop) (m : Move) : Course l m := by
  cases m with
  | event e => exact .quiet (.apply l e) rfl rfl (l.apply_fetches e) nofun
  | turn =>
    cases hr : l.ready with
    | nil =>
      have hm : l.move .turn = l := by simp [move, step, hr]
      exact .quiet (hm.symm ▸ .refl l) (by simp [asked, hr]) (by simp [visit?, hr])
        (by rw [hm]) fun _ => by rw [hm]; exact ⟨rfl, rfl, by simp [hr]⟩
    | cons job rest =>
      have hm : l.move .turn = l.dequeue.perform job := step_of_ready hr
      cases job with
      | run task => exact course_of_stretch hr (runTask_eq _ task) rfl (by simp [visit?, hr])
      | resume task space fault =>
        exact course_of_stretch hr (resumeTask_eq _ task space fault) rfl (by simp [visit?, hr])
      | notify task space fault =>
        exact .quiet (hm ▸ .of_eq rfl rfl) (by simp [asked, hr, stretch?]) (by simp [visit?, hr])
          (hm ▸ rfl) fun _ => hm ▸ ⟨rfl, rfl, by simp [perform, push, dequeue, hr, Job.sequel]⟩
      | fetch space number =>
        have ha : l.asked .turn = [] := by simp [asked, hr, stretch?]
        have hd : l.dequeue.findFetch? space number = l.findFetch? space number := rfl
        have hg : l.dequeue.service.get? space = l.service.get? space := rfl
        cases hf : l.findFetch? space number with
        | none =>
          have hq : l.dequeue.perform (.fetch space number) = l.dequeue := by
            simp [perform, runFetch, hd, hf]
          exact .quiet (hm.trans hq ▸ .of_eq rfl rfl) ha (by simp [visit?, hr, hf])
            (hm.trans hq ▸ rfl) fun _ => hm.trans hq ▸ ⟨rfl, rfl, by simp [dequeue, hr, Job.sequel]⟩
        | some f =>
          cases hn : l.service.get? space with
          | none =>
            have hq : l.dequeue.perform (.fetch space number) = l.dequeue := by
              simp [perform, runFetch, hd, hf, hg, hn]
            exact .quiet (hm.trans hq ▸ .of_eq rfl rfl) ha (by simp [visit?, hr, hf, hn])
              (hm.trans hq ▸ rfl) fun _ => hm.trans hq ▸
                ⟨rfl, rfl, by simp [dequeue, hr, Job.sequel]⟩
          | some n =>
            have hk := List.find?_some hf
            simp only [decide_eq_true_eq] at hk
            obtain ⟨rfl, rfl⟩ := hk
            have hv : l.visit? .turn = some
                ⟨f, (n.backend.advance l.world f.number f.stage n.storeId).value.2, l.clock⟩ := by
              simp [visit?, hr, hf, hn]
            exact .fetch ⟨f, _, _⟩ n rest rfl hr hf hn rfl rfl hm ha hv

/-- What calls keep, and the turns of fetches, and everything that is still, all moves keep. -/
theorem move_keeps {P : Loop → Prop} (hs : ∀ l l', Still l l' → P l → P l')
    (ha : ∀ l target call, P l → P (l.ask target call).1)
    (hf : ∀ l f n, l.findFetch? f.space f.number = some f → l.service.get? f.space = some n →
      P l → P (l.runFetch f.space f.number)) {l : Loop} (h : P l) (m : Move) : P (l.move m) := by
  have hd : P l.dequeue := hs l _ (.of_eq rfl rfl) h
  cases l.course m with
  | task job rest s turn ready stretch move =>
    rw [move]
    exact proceed_keeps ha (fun l space number => hs l _ (.join l space number s.task))
      (fun l t => hs l _ (.of_eq rfl rfl)) hd s.target s.answers s.calls
  | fetch v n rest turn ready found space progress clock move =>
    rw [move]
    exact hf l.dequeue v.fetch n found space hd
  | quiet move => exact hs l _ move h

section Visits
variable {P : List Visited → Loop → Prop} (hs : ∀ vs l l', Still l l' → P vs l → P vs l')
  (ha : ∀ vs l target call, P vs l → P vs (l.ask target call).1)
  (hf : ∀ vs l v n, l.findFetch? v.fetch.space v.fetch.number = some v.fetch →
    l.service.get? v.fetch.space = some n →
    (n.backend.advance l.world v.fetch.number v.fetch.stage n.storeId).value.2 = v.progress →
    v.clock = l.clock → P vs l → P (vs ++ [v]) (l.runFetch v.fetch.space v.fetch.number))
include hs ha hf

/-- The same of what is said together with the visits so far. -/
theorem move_visits {vs : List Visited} {l : Loop} (h : P vs l) (m : Move) :
    P (vs ++ (l.visit? m).toList) (l.move m) := by
  have hd : P vs l.dequeue := hs vs l _ (.of_eq rfl rfl) h
  cases l.course m with
  | task job rest s turn ready stretch move asked visit =>
    rw [visit, move, Option.toList_none, List.append_nil]
    exact proceed_keeps (ha vs) (fun l space number => hs vs l _ (.join l space number s.task))
      (fun l t => hs vs l _ (.of_eq rfl rfl)) hd s.target s.answers s.calls
  | fetch v n rest turn ready found space progress clock move asked visit =>
    rw [visit, move]
    exact hf vs l.dequeue v n found space progress clock hd
  | quiet move asked visit =>
    rw [visit, Option.toList_none, List.append_nil]
    exact hs vs l _ move h

theorem run_visits {vs : List Visited} {l : Loop} (h : P vs l) (ms : List Move) :
    P (vs ++ l.visits ms) (l.run ms) := by
  induction ms generalizing vs l with
  | nil => simpa [visits] using h
  | cons m ms ih =>
    rw [visits, ← List.append_assoc]
    exact ih (move_visits hs ha hf h m)

end Visits

end Loop

end LiveConfig
