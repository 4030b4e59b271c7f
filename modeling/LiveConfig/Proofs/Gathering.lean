import LiveConfig.Proofs.Errand
import LiveConfig.Proofs.Registration
set_option autoImplicit false

/-!
Fetching for one name after the other. The first name that fails ends it, and the backend of each
namespace up to there has been visited once.
-/
namespace LiveConfig

/-- Names stand for namespaces of which nothing has been asked yet, each for its own, and no backend
holds a fetch back. -/
structure Service.Untouched (service : Service) : Prop where
  located : ∀ name id, service.find name = .ok id → ∃ n, service.get? id = some n
  separate : ∀ name name' id, service.find name = .ok id → service.find name' = .ok id →
    name = name'
  fresh : ∀ id n, service.get? id = some n → n.IsFresh
  prompt : ∀ id n, service.get? id = some n → n.backend.Prompt

namespace Service

theorem build_untouched {s : Surroundings} {settings : Settings} {service : Service}
    (hb : (build s settings).value = .ok service) : service.Untouched := by
  have h := holds_of_build hb
  have hspace : ∀ id n, service.get? id = some n →
      ∃ b, n = spaceOf s settings.platform settings.interval b := by
    intro id n hn
    rw [h.get?, List.getElem?_map, Option.map_map, Option.map_eq_some_iff] at hn
    obtain ⟨b, -, rfl⟩ := hn
    exact ⟨b, rfl⟩
  refine ⟨fun name id hf => ?_, fun name name' id hf hf' => ?_, fun id n hn => ?_,
    fun id n hn => ?_⟩
  · obtain ⟨n, hn, -⟩ := h.get?_of_find hf
    exact ⟨n, hn⟩
  · exact Option.some.inj ((h.fst_of_find hf).symm.trans (h.fst_of_find hf'))
  · obtain ⟨b, rfl⟩ := hspace id n hn
    exact Namespace.fresh_isFresh _ _ _ _
  · obtain ⟨b, rfl⟩ := hspace id n hn
    exact Backend.select_prompt _ _ _

end Service

namespace Command

section Yields
variable (w : World) (service : Service)

/-- What asking for a name comes to: the outcome of a whole fetch by the backend of its namespace,
or the fault that there is none. -/
inductive Yields (name : String) : Except Fault Snapshot → Prop where
  | fetched {id : Nat} {n : Namespace} {b : Backend} {outcome : Except Fault Snapshot}
      {entries : List Entry} (find : service.find name = .ok id)
      (space : service.get? id = some n)
      (fetch : Backend.Fetches w n.started n.storeId n.backend .arriving b outcome entries) :
      Yields name outcome
  | unknown {f : Fault} (find : service.find name = .error f) : Yields name (.error f)

structure Gathers (names : List String) (shown : List (String × Snapshot)) : Prop where
  names : shown.map Prod.fst = names
  yields : ∀ e ∈ shown, Yields w service e.1 (.ok e.2)

end Yields

namespace Yields
variable {w : World} {service : Service} {name : String} {outcome : Except Fault Snapshot}

/-- A fetch that is not held back is over after its first turn. -/
theorem cases (h : service.Untouched) (hy : Yields w service name outcome) :
    (∃ f, outcome = .error f ∧ service.find name = .error f) ∨
      ∃ id n b entries, service.find name = .ok id ∧ service.get? id = some n ∧ b.Prompt ∧
        n.backend.advance w n.started .arriving n.storeId = ⟨(b, .ends outcome), entries⟩ := by
  cases hy with
  | unknown find => exact .inl ⟨_, rfl, find⟩
  | @fetched id n b outcome entries find space fetch =>
    obtain ⟨b', outcome', entries', hb, hp⟩ := (h.prompt id n space).advance w n.started n.storeId
    obtain ⟨rfl, rfl, rfl⟩ := (Backend.fetches_of_ends hb).1 fetch
    exact .inr ⟨id, n, b, entries, find, space, hp, hb⟩

end Yields

theorem Gathers.cons {w : World} {service : Service} {name : String} {names : List String}
    {s : Snapshot} {shown : List (String × Snapshot)} (hy : Yields w service name (.ok s))
    (hg : Gathers w service names shown) :
    Gathers w service (name :: names) ((name, s) :: shown) := by
  refine ⟨by rw [List.map_cons, hg.names], fun e he => ?_⟩
  rcases List.mem_cons.1 he with rfl | he
  · exact hy
  · exact hg.yields e he

def errand (l : Loop) (name : String) : List Loop.Move :=
  match l.service.find name with
  | .error _ => []
  | .ok id =>
    let start := .event (.begin l.freshTask (.space id) [.all])
    start :: (l.move start).settling

def errands : Loop → List String → List Loop.Move
  | _, [] => []
  | l, name :: rest =>
    errand l name ++
      match fetchOne l name with
      | (_, .error _) => []
      | (l, .ok _) => errands l rest

theorem run_errand (l : Loop) (name : String) : l.run (errand l name) = (fetchOne l name).1 := by
  rw [errand, fetchOne]
  cases l.service.find name with
  | error f => rfl
  | ok id => exact Loop.run_settling _

theorem visits_errand {l : Loop} {name : String} {id : Nat} (hf : l.service.find name = .ok id) :
    let begun := l.apply (.begin l.freshTask (.space id) [.all])
    l.visits (errand l name) = begun.visits begun.settling := by
  rw [errand, hf]
  rfl

structure Unasked (w : World) (service : Service) (l : Loop) (names : List String) : Prop where
  idle : l.Idle
  world : l.world = w
  registered : l.service.names = service.names
  spaces : ∀ name ∈ names, ∀ id, service.find name = .ok id → l.service.get? id = service.get? id

structure VisitFor (service : Service) (name : String) (v : Loop.Visited) : Prop where
  space : service.find name = .ok v.fetch.space
  begins : v.fetch.stage = .arriving

namespace Unasked
variable {w : World} {service : Service} {l : Loop} {name : String} {names : List String}
  {outcome : Except Fault Snapshot}

theorem find (h : Unasked w service l names) (name : String) :
    l.service.find name = service.find name := by
  rw [Service.find, Service.find, h.registered]

/-- For one name there is one visit at most, and the namespaces of the others are not asked. -/
theorem fetchOne (hs : service.Untouched) (h : Unasked w service l (name :: names))
    (hn : name ∉ names) (hy : Yields w service name outcome) :
    (fetchOne l name).2 = outcome ∧ Unasked w service (Command.fetchOne l name).1 names ∧
      ((l.visits (errand l name)).length ≤ 1 ∧
        ∀ v ∈ l.visits (errand l name), VisitFor service name v) := by
  have hrest : ∀ other ∈ names, ∀ id, service.find other = .ok id →
      l.service.get? id = service.get? id :=
    fun other ho => h.spaces other (List.mem_cons_of_mem _ ho)
  obtain ⟨f, rfl, hf⟩ | ⟨id, n, b, entries, hf, hspace, hp, hb⟩ := hy.cases hs
  · rw [← h.find] at hf
    have hone : Command.fetchOne l name = (l, .error f) := by rw [Command.fetchOne, hf]
    have hmoves : errand l name = [] := by rw [errand, hf]
    rw [hone, hmoves]
    exact ⟨rfl, ⟨h.idle, h.world, h.registered, hrest⟩, Nat.zero_le _,
      fun _ hv => absurd hv List.not_mem_nil⟩
  · have hfresh := hs.fresh id n hspace
    have hspace' := (h.spaces name List.mem_cons_self id hf).trans hspace
    obtain ⟨hdone, hvisits⟩ := Loop.errand h.idle hspace' hfresh.cached hfresh.inFlight
      (h.world.symm ▸ hb) hp
    have hnames := l.run_names (errand l name)
    have hlook := (h.find name).trans hf
    rw [run_errand] at hnames
    simp only [Command.fetchOne, hlook] at hnames ⊢
    refine ⟨?_, ⟨hdone.idle, hdone.world.trans h.world, hnames.trans h.registered, ?_⟩, ?_⟩
    · rw [firstAnswer, hdone.answer]
      cases outcome <;> rfl
    · intro other ho j hj
      rw [hdone.others j, hrest other ho j hj]
      rintro rfl
      exact hn (hs.separate _ _ _ hf hj ▸ ho)
    · rw [visits_errand hlook, hvisits]
      refine ⟨Nat.le_refl _, fun v hv => ?_⟩
      cases List.mem_singleton.1 hv
      exact ⟨hf, rfl⟩

end Unasked

inductive VisitsFor (service : Service) : List String → List Loop.Visited → Prop where
  | nil : VisitsFor service [] []
  | skip {name : String} {names : List String} {vs : List Loop.Visited}
      (rest : VisitsFor service names vs) : VisitsFor service (name :: names) vs
  | visit {name : String} {v : Loop.Visited} {names : List String} {vs : List Loop.Visited}
      (first : VisitFor service name v) (rest : VisitsFor service names vs) :
      VisitsFor service (name :: names) (v :: vs)

namespace VisitsFor
variable {service : Service} {names : List String} {vs : List Loop.Visited}

theorem cons {name : String} {one : List Loop.Visited} (hl : one.length ≤ 1)
    (hone : ∀ v ∈ one, VisitFor service name v) (h : VisitsFor service names vs) :
    VisitsFor service (name :: names) (one ++ vs) := by
  cases one with
  | nil => exact .skip h
  | cons v more =>
    have hmore : more = [] := List.length_eq_zero_iff.1 (Nat.le_zero.1 (Nat.le_of_succ_le_succ hl))
    subst hmore
    exact .visit (hone v List.mem_cons_self) h

theorem mem (h : VisitsFor service names vs) :
    ∀ v ∈ vs, ∃ name ∈ names, VisitFor service name v := by
  induction h with
  | nil => exact fun _ hv => absurd hv List.not_mem_nil
  | skip rest ih =>
    intro v hv
    obtain ⟨name, hn, hf⟩ := ih v hv
    exact ⟨name, List.mem_cons_of_mem _ hn, hf⟩
  | visit first rest ih =>
    intro v hv
    rcases List.mem_cons.1 hv with rfl | hv
    · exact ⟨_, List.mem_cons_self, first⟩
    · obtain ⟨name, hn, hf⟩ := ih v hv
      exact ⟨name, List.mem_cons_of_mem _ hn, hf⟩

/-- Different names mean different namespaces, so that none is visited twice. -/
theorem nodup (hs : service.Untouched) (h : VisitsFor service names vs) (hn : names.Nodup) :
    (vs.map fun v => v.fetch.space).Nodup := by
  induction h with
  | nil => exact List.nodup_nil
  | skip rest ih => exact ih (List.nodup_cons.1 hn).2
  | @visit name v names vs first rest ih =>
    obtain ⟨hnew, hn⟩ := List.nodup_cons.1 hn
    rw [List.map_cons, List.nodup_cons]
    refine ⟨fun hm => ?_, ih hn⟩
    obtain ⟨v', hv', hspace⟩ := List.mem_map.1 hm
    obtain ⟨other, ho, hother⟩ := rest.mem v' hv'
    exact hnew (hs.separate _ _ _ first.space (hspace ▸ hother.space) ▸ ho)

end VisitsFor

section Cons
variable {l : Loop} {name : String} (rest : List String)

theorem fetchAll_of_ok {s : Snapshot} (h : (fetchOne l name).2 = .ok s) :
    (fetchAll l (name :: rest)).2 =
        (fetchAll (fetchOne l name).1 rest).2.map (fun more => (name, s) :: more) ∧
      l.visits (errands l (name :: rest)) = l.visits (errand l name) ++
        (fetchOne l name).1.visits (errands (fetchOne l name).1 rest) := by
  rw [fetchAll, errands, Loop.visits_append, run_errand]
  generalize fetchOne l name = one at h
  obtain ⟨l', outcome⟩ := one
  cases h
  refine ⟨?_, rfl⟩
  dsimp only
  generalize fetchAll l' rest = more
  obtain ⟨l'', result⟩ := more
  cases result <;> rfl

end Cons

namespace Unasked
variable {w : World} {service : Service} {l : Loop} {names : List String}

theorem fetchAll_of_gathers (hs : service.Untouched) (h : Unasked w service l names)
    (hn : names.Nodup) {shown : List (String × Snapshot)} (hg : Gathers w service names shown) :
    (fetchAll l names).2 = .ok shown ∧ VisitsFor service names (l.visits (errands l names)) := by
  obtain ⟨hnames, hyields⟩ := hg
  induction shown generalizing l names with
  | nil =>
    subst hnames
    exact ⟨rfl, .nil⟩
  | cons e more ih =>
    obtain ⟨name, s⟩ := e
    subst hnames
    obtain ⟨hnew, hn⟩ := List.nodup_cons.1 hn
    obtain ⟨hone, hnext, hvisit, hvisits⟩ := h.fetchOne hs hnew (hyields _ List.mem_cons_self)
    obtain ⟨hall, hrest⟩ := ih hnext hn rfl fun e he => hyields e (List.mem_cons_of_mem _ he)
    obtain ⟨hmore, hmoves⟩ := fetchAll_of_ok (more.map Prod.fst) hone
    rw [List.map_cons, hmore, hmoves, hall]
    exact ⟨rfl, .cons hvisit hvisits hrest⟩

theorem start (hs : service.Untouched) (w : World) (names : List String) :
    Unasked w service (.start service w 0) names :=
  ⟨⟨rfl, rfl, rfl, hs.prompt⟩, rfl, rfl, fun _ _ _ _ => rfl⟩

end Unasked

end Command

end LiveConfig
