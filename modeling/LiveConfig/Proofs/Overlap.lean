import LiveConfig.Proofs.Flight
set_option autoImplicit false

/-!
What a test double sees of the fetches of its namespace: they never overlap.
-/
namespace LiveConfig

def Stage.inside : Stage → Nat
  | .arriving | .admitted => 0
  | .passed | .rested => 1

def Progress.inside : Progress → Nat
  | .waits next => next.inside
  | .ends _ => 0

/-- A double that counts this many visits inside, and never counted two at once. -/
def Scripted.Counts (k : Nat) (d : Scripted) : Prop := d.inFlight = k ∧ d.maxInFlight ≤ 1

namespace Scripted

theorem pass_counts {d : Scripted} (h : d.Counts 1) (visit : Nat) :
    (d.pass visit).1.Counts (d.pass visit).2.inside := by
  unfold pass
  split
  · exact h
  · exact ⟨by simp [answer, h.1, Progress.inside], h.2⟩

theorem letIn_counts {d : Scripted} (h : d.Counts 0) (visit : Nat) (storeId : String) :
    (d.letIn visit storeId).1.Counts (d.letIn visit storeId).2.inside := by
  have hm : max d.maxInFlight (d.inFlight + 1) ≤ 1 := by
    have h1 := h.1
    have h2 := h.2
    omega
  unfold letIn
  simp only
  split
  · exact ⟨by simp [h.1, Progress.inside, Stage.inside], hm⟩
  · exact pass_counts ⟨by simp [h.1], hm⟩ visit

theorem advance_counts {d : Scripted} {stage : Stage} (h : d.Counts stage.inside) (visit : Nat)
    (storeId : String) :
    (d.advance visit stage storeId).1.Counts (d.advance visit stage storeId).2.inside := by
  cases stage with
  | arriving =>
    simp only [advance, arrive]
    split
    · exact h
    · exact letIn_counts h visit storeId
  | admitted => exact letIn_counts h visit storeId
  | passed => exact pass_counts h visit
  | rested => exact ⟨by simp [advance, answer, h.1, Stage.inside, Progress.inside], h.2⟩

theorem pass_ne_arriving (d : Scripted) (visit : Nat) : (d.pass visit).2 ≠ .waits .arriving := by
  unfold pass
  split <;> simp [answer]

theorem letIn_ne_arriving (d : Scripted) (visit : Nat) (storeId : String) :
    (d.letIn visit storeId).2 ≠ .waits .arriving := by
  unfold letIn
  simp only
  split
  · simp
  · exact pass_ne_arriving _ visit

theorem advance_ne_arriving (d : Scripted) (visit : Nat) (stage : Stage) (storeId : String) :
    (d.advance visit stage storeId).2 ≠ .waits .arriving := by
  cases stage with
  | arriving =>
    simp only [advance, arrive]
    split
    · simp
    · exact letIn_ne_arriving d visit storeId
  | admitted => exact letIn_ne_arriving d visit storeId
  | passed => exact pass_ne_arriving d visit
  | rested => simp [advance, answer]

end Scripted

namespace Backend

def Counts (k : Nat) (b : Backend) : Prop := ∀ d, b.double? = some d → d.Counts k

theorem advance_extension (w : World) (endpoint : Extension) (fallback : Backend) (visit : Nat)
    (stage : Stage) (storeId : String) :
    (stage = .arriving ∧ ∃ outcome,
      ((Backend.extension endpoint fallback).advance w visit stage storeId).value =
        (.extension endpoint fallback, .ends outcome)) ∨
    ((Backend.extension endpoint fallback).advance w visit stage storeId).value =
      (.extension endpoint (fallback.advance w visit stage storeId).value.1,
        (fallback.advance w visit stage storeId).value.2) := by
  by_cases hs : stage = .arriving
  · subst hs
    rw [advance, if_pos rfl, Journaled.value_bind]
    cases (endpoint.attempt w storeId).value with
    | ok s => exact .inl ⟨rfl, _, rfl⟩
    | error f =>
      by_cases hf : Extension.fallsBack f
      · exact .inr (by simp [hf])
      · exact .inl ⟨rfl, _, by simp [hf]; rfl⟩
  · exact .inr (by simp [advance, hs])

theorem advance_ne_arriving (w : World) (b : Backend) (visit : Nat) (stage : Stage)
    (storeId : String) : (b.advance w visit stage storeId).value.2 ≠ .waits .arriving := by
  induction b with
  | scripted d => exact d.advance_ne_arriving visit stage storeId
  | extension endpoint fallback ih =>
    obtain ⟨-, outcome, h⟩ | h := advance_extension w endpoint fallback visit stage storeId
    · simp [h]
    · rw [h]; exact ih
  | _ => simp [advance]

theorem advance_counts (w : World) {b : Backend} {stage : Stage} (h : b.Counts stage.inside)
    (visit : Nat) (storeId : String) :
    (b.advance w visit stage storeId).value.1.Counts
      (b.advance w visit stage storeId).value.2.inside := by
  induction b with
  | scripted d =>
    intro d' hd'
    cases hd'
    exact Scripted.advance_counts (h d rfl) visit storeId
  | extension endpoint fallback ih =>
    obtain ⟨rfl, outcome, he⟩ | he := advance_extension w endpoint fallback visit stage storeId
    · rw [he]
      exact h
    · rw [he]
      exact ih h
  | _ => exact fun d hd => by simp [advance, double?] at hd

theorem counts_congr {b b' : Backend} (h : b.counts = b'.counts) {k : Nat} (hb : b'.Counts k) :
    b.Counts k := by
  intro d hd
  have hc : b'.counts = some (d.calls, d.inFlight, d.maxInFlight) := by rw [← h, counts, hd]; rfl
  obtain ⟨d', hd', he⟩ := Option.map_eq_some_iff.1 hc
  simp only [Prod.mk.injEq] at he
  rw [Scripted.Counts, ← he.2.1, ← he.2.2]
  exact hb d' hd'

end Backend

namespace Loop

def inside (l : Loop) (id : Nat) : Nat :=
  ((l.flights id).map fun f => f.stage.inside).foldr (· + ·) 0

def Apart (id : Nat) (l : Loop) : Prop :=
  ∀ n, l.service.get? id = some n → n.backend.Counts (l.inside id)

theorem Coherent.inside_le_one {l : Loop} (h : Coherent l) {id : Nat} {n : Namespace}
    (hn : l.service.get? id = some n) : l.inside id ≤ 1 := by
  cases hi : n.inFlight with
  | none =>
    rw [inside, h.flights_eq_nil hn hi]
    exact Nat.zero_le 1
  | some k =>
    obtain ⟨f, hf, -⟩ := h.exists_flight hn hi
    rw [inside, hf]
    cases hs : f.stage <;> simp [hs, Stage.inside]

namespace Apart
variable {id : Nat} {l : Loop}

theorem fresh (hf : l.IsFresh) (hb : ∀ n, l.service.get? id = some n → n.backend.Counts 0) :
    Apart id l := by
  intro n hn
  have hin : l.inside id = 0 := by rw [inside, flights, hf.fetches]; rfl
  rw [hin]
  exact hb n hn

theorem still {l' : Loop} (h : Apart id l) (hs : Still l l') : Apart id l' := by
  have hst := flights_map_congr (g := fun f => (f.number, f.stage)) hs.stage id
  have hm := congrArg (List.map fun x => x.2.inside) hst
  rw [List.map_map, List.map_map] at hm
  have hin : l'.inside id = l.inside id := congrArg (List.foldr (· + ·) 0) hm
  intro n' hn'
  have hc := hs.counts id
  rw [hn', Option.map_some, eq_comm, Option.map_eq_some_iff] at hc
  obtain ⟨n, hn, hc⟩ := hc
  rw [hin]
  exact Backend.counts_congr hc.symm (h n hn)

theorem ask (h : Apart id l) (target : Target) (call : Call) : Apart id (l.ask target call).1 := by
  obtain ⟨-, ha⟩ | ⟨j, n, notice, -, hn, -, -, -, ha⟩ := l.ask_cases target call
  · rwa [ha]
  · rw [ha]
    intro m hm
    have hin : ((l.say notice).startFetch j n n.cached.isSome).inside id = l.inside id := by
      have hf : (l.say notice).flights id = l.flights id := rfl
      rw [inside, startFetch_flights, List.map_append, List.foldr_append, hf, inside]
      by_cases hj : j = id <;> simp [hj, Stage.inside]
    rw [hin]
    rw [startFetch_get? (show (l.say notice).service.get? j = some n from hn)] at hm
    by_cases hj : j = id
    · rw [if_pos hj] at hm
      cases hm
      exact h n (hj ▸ hn)
    · rw [if_neg hj] at hm
      exact h m hm

theorem runFetch (h : Apart id l) (hc : Coherent l) {f : Fetch} {n : Namespace}
    (hf : l.findFetch? f.space f.number = some f) (hn : l.service.get? f.space = some n) :
    Apart id (l.runFetch f.space f.number) := by
  intro m hm
  rw [runFetch_get? hf hn] at hm
  rw [inside, hc.runFetch_flights hf hn]
  by_cases he : f.space = id
  · rw [if_pos he] at hm ⊢
    cases hm
    have hmem : f ∈ l.flights id := mem_flights.2 ⟨(findFetch?_eq_some hf).1, he⟩
    have hk := h n (he ▸ hn)
    rw [inside, hc.flights_eq_singleton hmem] at hk
    have ha := Backend.advance_counts l.world hk f.number n.storeId
    cases hp : (n.backend.advance l.world f.number f.stage n.storeId).value.2 with
    | waits next => rw [hp] at ha; exact ha
    | ends outcome =>
      rw [hp] at ha
      obtain ⟨reported, hl⟩ :=
        Namespace.land_eq { n with backend := _ } f.background outcome l.clock
      rw [Namespace.turn, hl]
      exact ha
  · rw [if_neg he] at hm ⊢
    exact h m hm

theorem move (h : Apart id l) (hc : Coherent l) (m : Move) : Apart id (l.move m) := by
  have hm : Coherent (l.move m) ∧ Apart id (l.move m) :=
    move_keeps (P := fun l => Coherent l ∧ Apart id l)
      (fun _ _ hs h => ⟨h.1.quiet hs.toQuiet, h.2.still hs⟩)
      (fun _ target call h => ⟨h.1.ask target call, h.2.ask target call⟩)
      (fun _ _ _ hf hn h => ⟨h.1.runFetch hf hn, h.2.runFetch h.1 hf hn⟩) ⟨hc, h⟩ m
  exact hm.2

theorem run (h : Apart id l) (hc : Coherent l) (ms : List Move) : Apart id (l.run ms) := by
  have hr : Coherent (l.run ms) ∧ Apart id (l.run ms) :=
    run_keeps (P := fun l => Coherent l ∧ Apart id l)
      (fun _ m h => ⟨h.1.move m, h.2.move h.1 m⟩) ⟨hc, h⟩ ms
  exact hr.2

end Apart

end Loop

end LiveConfig
