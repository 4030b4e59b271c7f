import LiveConfig.Proofs.Decoding
import LiveConfig.Proofs.Succession
set_option autoImplicit false

/-!
The cache client of a fetch does not outlive it. Whatever the cache answers, one client is opened,
asked once and closed, and only then is it seen what the answer means.
-/
namespace LiveConfig

/-- Decoding a payload fails with a fault of decoding, or with one that is no fault of a fetch. -/
theorem Snapshot.fault_of_payload {room : Json.Room} {storeId : String} {p : Payload}
    {fault : FetchFault} (h : ofPayload room storeId p = .error (.fetch fault)) :
    fault.problem = .decode ∧ fault.storeId = storeId := by
  obtain ⟨detail, cause, he⟩ | ⟨n, he, -⟩ | ⟨work, he, -⟩ :=
    (decode_outcome room storeId p).fault _ h <;> cases he
  exact ⟨rfl, rfl⟩

namespace CacheAddress
variable {w : World} {a : CacheAddress} {storeId : String}

/-- What the answer of the cache to a question for a key means for the store. -/
structure Answered (w : World) (a : CacheAddress) (storeId : String)
    (outcome : Except Fault Snapshot) : Prop where
  refused : ∀ message, w.cached storeId = .error (.cache (.authentication message)) →
    outcome = .error (.fetch ⟨.auth, storeId, message,
      some (.remote (.cache (.authentication message)))⟩)
  unreachable : ∀ label message, w.cached storeId = .error (.cache (.other label message)) →
    outcome = .error (.fetch ⟨.network, storeId, s!"{a.host}:{a.port} unavailable: {message}",
      some (.remote (.cache (.other label message)))⟩)
  unset : w.cached storeId = .ok none →
    outcome = .error (.fetch ⟨.notFound, storeId, "key not set", none⟩)
  decoded : ∀ bytes, w.cached storeId = .ok (some bytes) →
    outcome = Snapshot.ofPayload w.room storeId (.bytes bytes)
  unchanged : ∀ f, w.cached storeId = .error f →
    (∀ message, f ≠ .cache (.authentication message)) →
    (∀ label message, f ≠ .cache (.other label message)) → outcome = .error (.remote f)
  /-- No problem is named without its reason. -/
  reason : ∀ fault, outcome = .error (.fetch fault) → fault.storeId = storeId ∧
    (fault.problem = .auth ↔
      ∃ message, w.cached storeId = .error (.cache (.authentication message))) ∧
    (fault.problem = .network ↔
      ∃ label message, w.cached storeId = .error (.cache (.other label message))) ∧
    (fault.problem = .notFound ↔ w.cached storeId = .ok none) ∧
    (fault.problem = .decode ↔ ∃ bytes, w.cached storeId = .ok (some bytes))

theorem fetch_of_fault {f : RemoteFault} (h : w.cached storeId = .error f) :
    (a.fetch w storeId).value = .error (a.fault storeId f) := by
  simp [fetch, get, h]

theorem fetch_of_unset (h : w.cached storeId = .ok none) :
    (a.fetch w storeId).value = .error (.fetch ⟨.notFound, storeId, "key not set", none⟩) := by
  simp [fetch, get, h]

theorem fetch_of_bytes {bytes : List UInt8} (h : w.cached storeId = .ok (some bytes)) :
    (a.fetch w storeId).value = Snapshot.ofPayload w.room storeId (.bytes bytes) := by
  simp [fetch, get, h]

theorem answered (w : World) (a : CacheAddress) (storeId : String) :
    Answered w a storeId (a.fetch w storeId).value := by
  refine ⟨fun _ => fetch_of_fault, fun _ _ => fetch_of_fault, fetch_of_unset,
    fun _ => fetch_of_bytes, fun f hf hauth hother => ?_, fun fault h => ?_⟩
  · rw [fetch_of_fault hf]
    cases f with
    | cache g =>
      cases g with
      | authentication message => exact absurd rfl (hauth message)
      | other label message => exact absurd rfl (hother label message)
      | cluster message => rfl
    | _ => rfl
  · cases hc : w.cached storeId with
    | error f =>
      rw [fetch_of_fault hc] at h
      cases f with
      | cache g => cases g <;> cases h <;> simp
      | _ => cases h
    | ok value =>
      cases value with
      | none =>
        rw [fetch_of_unset hc] at h
        cases h
        simp
      | some bytes =>
        rw [fetch_of_bytes hc] at h
        obtain ⟨hproblem, hstore⟩ := Snapshot.fault_of_payload h
        simp [hproblem, hstore]

/-- All that is done in the world is done before anything is noted. -/
theorem entries_fetch (w : World) (a : CacheAddress) (storeId : String) :
    ∃ notices : List Notice, (a.fetch w storeId).entries =
      [.asked (.cacheOpened a.host a.port), .asked (.keyAsked storeId), .asked .cacheClosed] ++
        notices.map .said := by
  cases hc : w.cached storeId with
  | error f => exact ⟨[], by simp [fetch, get, hc, Journaled.ask]⟩
  | ok value =>
    cases value with
    | none => exact ⟨[], by simp [fetch, get, hc, Journaled.ask]⟩
    | some bytes =>
      exact ⟨[.cacheRead a.host a.port storeId bytes.length],
        by simp [fetch, get, hc, Journaled.ask, Journaled.say]⟩

/-- Fetches from one cache, one after the other. Each is made as if there were no others: it opens
one client, asks it for the key once and closes it, and the answer alone decides what it comes
to. -/
structure Closing (a : CacheAddress) (visits : List (World × String)) : Prop where
  alone : (Backend.cache a).series visits = visits.map fun v => .ends <$> a.fetch v.1 v.2
  closed : ∀ v ∈ visits, ∃ notices : List Notice, (a.fetch v.1 v.2).entries =
    [.asked (.cacheOpened a.host a.port), .asked (.keyAsked v.2), .asked .cacheClosed] ++
      notices.map .said
  answered : ∀ v ∈ visits, Answered v.1 a v.2 (a.fetch v.1 v.2).value

theorem closing (a : CacheAddress) (visits : List (World × String)) : Closing a visits where
  alone := by
    have hnext : ∀ v, (Backend.cache a).next v = .cache a := fun _ => rfl
    rw [Backend.series_of_next hnext]
    refine List.map_congr_left fun v _ => ?_
    simp [Backend.outcome, Backend.advance]
  closed v _ := entries_fetch v.1 a v.2
  answered v _ := answered v.1 a v.2

end CacheAddress

end LiveConfig
