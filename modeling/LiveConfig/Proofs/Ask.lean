import LiveConfig.Proofs.Run
set_option autoImplicit false

/-!
What one call does: it starts the fetch that is wanted, if one is, and changes nothing else. It is
answered at once or waits for the fetch in flight.
-/
namespace LiveConfig

def Call.reads : Call → Bool
  | .get _ | .require _ | .all | .parse _ | .edit _ _ => true
  | .wait | .isStale | .isRefreshing | .label | .describe => false

theorem Call.look?_of_reads {call : Call} (h : call.reads) (n : Namespace) (clock : Float) :
    call.look? n clock = none := by
  cases call <;> simp_all [reads, look?]

/-- Reading fails in two ways: the key that is needed is not there, or the schema refuses. -/
theorem Call.read_eq_error_iff {call : Call} (h : call.reads) (name : String) (s : Snapshot)
    (f : Fault) : call.read name s = .error f ↔
      (∃ key, call = .require key ∧ s.get? (Text.codePoints key) = none ∧
          f = .keyNotFound key name) ∨
        ∃ schema, call = .parse schema ∧ schema s = .error f := by
  cases call with
  | require key => cases hk : s.get? (Text.codePoints key) <;> simp [read, hk, eq_comm]
  | parse schema => cases hs : schema s <;> simp [read, hs, Except.map]
  | _ => simp_all [read, reads]

namespace Namespace

/-- There is no snapshot or an old one, and no fetch that will replace it. -/
def Wants (n : Namespace) (clock : Float) : Prop :=
  n.inFlight = none ∧ (n.cached = none ∨ n.isStale clock = true)

instance (n : Namespace) (clock : Float) : Decidable (n.Wants clock) :=
  inferInstanceAs (Decidable (_ ∧ _))

theorem not_isStale_of_interval {n : Namespace} (h : n.interval = none) (clock : Float) :
    n.isStale clock = false := by
  cases hc : n.cached <;> simp [isStale, h, hc]

end Namespace

namespace Loop

def launch (l : Loop) (target : Target) (call : Call) : List Fetch :=
  match l.locate target with
  | .ok id =>
    match l.service.get? id with
    | some n =>
      if call.reads ∧ n.Wants l.clock then [⟨id, n.started, n.cached.isSome, .arriving, []⟩] else []
    | none => []
  | .error _ => []

theorem access_eq (l : Loop) (id : Nat) (n : Namespace) (call : Call) :
    (¬n.Wants l.clock ∧ (l.access id n call).1 = l) ∨
      n.Wants l.clock ∧ ∃ notice,
        (l.access id n call).1 = (l.say notice).startFetch id n n.cached.isSome := by
  cases hc : n.cached with
  | some c =>
    by_cases h : n.isStale l.clock = true ∧ n.inFlight = none
    · right
      exact ⟨⟨h.2, .inr h.1⟩, _, by simp [access, hc, h]; rfl⟩
    · left
      refine ⟨fun hw => h ⟨?_, hw.1⟩, by simp [access, hc, h]⟩
      simpa [hc] using hw.2
  | none =>
    cases hi : n.inFlight with
    | some number => exact .inl ⟨by simp [Namespace.Wants, hi], by simp [access, hc, hi]⟩
    | none => exact .inr ⟨⟨hi, .inl hc⟩, _, by simp [access, hc, hi]; rfl⟩

theorem ask_of_reads {l : Loop} {target : Target} {call : Call} {id : Nat} {n : Namespace}
    (hl : l.locate target = .ok id) (hn : l.service.get? id = some n) (hr : call.reads) :
    l.ask target call = l.access id n call := by
  simp only [ask, hl, hn, begin, Call.look?_of_reads hr]
  cases call <;> simp_all [Call.reads]

/-- A call changes nothing, or starts the one fetch that is wanted. -/
theorem ask_cases (l : Loop) (target : Target) (call : Call) :
    (l.launch target call = [] ∧ (l.ask target call).1 = l) ∨
      ∃ id n notice, l.locate target = .ok id ∧ l.service.get? id = some n ∧ call.reads ∧
        n.Wants l.clock ∧
        l.launch target call = [⟨id, n.started, n.cached.isSome, .arriving, []⟩] ∧
        (l.ask target call).1 = (l.say notice).startFetch id n n.cached.isSome := by
  cases hl : l.locate target with
  | error f => exact .inl ⟨by simp [launch, hl], by simp [ask, hl]⟩
  | ok id =>
    cases hn : l.service.get? id with
    | none => exact .inl ⟨by simp [launch, hl, hn], by simp [ask, hl, hn]⟩
    | some n =>
      by_cases hr : call.reads
      · rw [ask_of_reads hl hn hr]
        obtain ⟨hw, ha⟩ | ⟨hw, notice, ha⟩ := l.access_eq id n call
        · exact .inl ⟨by simp [launch, hl, hn, hw], ha⟩
        · exact .inr ⟨id, n, notice, rfl, hn, hr, hw, by simp [launch, hl, hn, hr, hw], ha⟩
      · left
        refine ⟨by simp [launch, hl, hn, hr], ?_⟩
        cases hi : n.inFlight <;> cases call <;>
          simp_all [ask, begin, Call.look?, Call.reads]

section Reply
variable {l : Loop} {target : Target} {call : Call} {id : Nat} {n : Namespace}

theorem ask_of_cached (hl : l.locate target = .ok id) (hn : l.service.get? id = some n)
    (hr : call.reads) {c : Cached} (hc : n.cached = some c) :
    (l.ask target call).2 = .now (call.read n.name c.snapshot) := by
  rw [ask_of_reads hl hn hr, access, hc]
  simp only
  split <;> rfl

theorem ask_of_missing (hl : l.locate target = .ok id) (hn : l.service.get? id = some n)
    (hr : call.reads) (hc : n.cached = none) :
    (l.ask target call).2 = .later id (n.inFlight.getD n.started) ∧
      ∃ n', (l.ask target call).1.service.get? id = some n' ∧
        n'.inFlight = some (n.inFlight.getD n.started) ∧ n'.cached = none := by
  rw [ask_of_reads hl hn hr, access, hc]
  cases hi : n.inFlight with
  | some number => exact ⟨rfl, n, hn, hi, hc⟩
  | none => exact ⟨rfl, n.startFetch, by simp [startFetch, update, say, write, hn], rfl, hc⟩

end Reply

theorem ask_fetches (l : Loop) (target : Target) (call : Call) :
    (l.ask target call).1.fetches = l.fetches ++ l.launch target call := by
  obtain ⟨hf, ha⟩ | ⟨id, n, notice, -, -, -, -, hf, ha⟩ := l.ask_cases target call
  · rw [hf, ha, List.append_nil]
  · rw [hf, ha]; rfl

theorem ask_ready (l : Loop) (target : Target) (call : Call) :
    (l.ask target call).1.ready =
      l.ready ++ (l.launch target call).map fun f => .fetch f.space f.number := by
  obtain ⟨hf, ha⟩ | ⟨id, n, notice, -, -, -, -, hf, ha⟩ := l.ask_cases target call
  · rw [hf, ha, List.map_nil, List.append_nil]
  · rw [hf, ha]; rfl

theorem ask_tasks (l : Loop) (target : Target) (call : Call) :
    (l.ask target call).1.tasks = l.tasks := by
  obtain ⟨-, ha⟩ | ⟨id, n, notice, -, -, -, -, -, ha⟩ := l.ask_cases target call
  · rw [ha]
  · rw [ha]; rfl

theorem ask_map (l : Loop) (target : Target) (call : Call) (id : Nat) {α : Type}
    {g : Namespace → α} (hg : ∀ n, g n.startFetch = g n) :
    ((l.ask target call).1.service.get? id).map g = (l.service.get? id).map g := by
  obtain ⟨-, ha⟩ | ⟨j, n, notice, -, -, -, -, -, ha⟩ := l.ask_cases target call
  · rw [ha]
  · rw [ha]
    exact l.service.map_get?_update j id _ hg

theorem proceed_keeps {P : Loop → Prop} {task : Nat}
    (ha : ∀ l target call, P l → P (l.ask target call).1)
    (hj : ∀ l space number, P l → P (l.join space number task))
    (ht : ∀ l t, P l → P (l.setTask task t)) {l : Loop} (h : P l)
    (target : Target) (answers : List (Except Fault Answer)) (calls : List Call) :
    P (l.proceed task target answers calls) := by
  induction calls generalizing l answers with
  | nil => exact ht _ _ h
  | cons call rest ih =>
    have h' := ha l target call h
    rw [proceed]
    split
    next l' outcome hask => rw [hask] at h'; exact ih h' _
    next l' space number hask => rw [hask] at h'; exact ht _ _ (hj _ _ _ h')

theorem asking_keeps {P : Loop → Prop} (ha : ∀ l target call, P l → P (l.ask target call).1)
    {l : Loop} (h : P l) (task : Nat) (target : Target) (index : Nat) (calls : List Call) :
    ∀ a ∈ l.asking task target index calls, P a.loop := by
  induction calls generalizing l index with
  | nil => exact fun a hm => absurd hm List.not_mem_nil
  | cons call rest ih =>
    have h' := ha l target call h
    intro a hm
    rw [asking] at hm
    rcases List.mem_cons.1 hm with rfl | hm
    · exact h
    split at hm
    next l' outcome hask => rw [hask] at h'; exact ih h' _ a hm
    next => exact absurd hm List.not_mem_nil

end Loop

end LiveConfig
