import LiveConfig.Proofs.Closing
import LiveConfig.Proofs.Paging
set_option autoImplicit false

/-!
What becomes of the faults of the cloud. A fault is reported alike wherever it is met and whichever
store is asked, and it is not remembered: a client is asked for until there is one, and a fetch
before which there was none is like the first.
-/
namespace LiveConfig

namespace FetchFault

/-- What the report of a fault says. Refusals are told apart by their codes; faults of the client
are problems of the network, unless it lacks credentials. -/
structure Reports (storeId : String) (f : RemoteFault) (fault : FetchFault) : Prop where
  storeId : fault.storeId = storeId
  cause : fault.cause = some (.remote f)
  auth : fault.problem = .auth ↔
    (∃ s code, f = .service s ∧ s.code = some code ∧ code ∈ authCodes) ∨
      (∃ text, f = .client (.noCredentials text)) ∨
      ∃ text, f = .client (.partialCredentials text)
  notFound : fault.problem = .notFound ↔
    ∃ s code, f = .service s ∧ s.code = some code ∧ code ∈ notFoundCodes
  otherwise : fault.problem ≠ .auth → fault.problem ≠ .notFound → fault.problem = .network
  detail : fault.detail = match f with
    | .service s => s.code.getD "" ++ ": " ++ s.message.getD s.text
    | f => f.text

def blaming (storeId : String) (f : RemoteFault) : FetchFault :=
  { ofCloud storeId f with cause := some (.remote f) }

theorem problemOfCode_eq_auth (code : String) :
    problemOfCode code = .auth ↔ code ∈ authCodes := by
  unfold problemOfCode
  by_cases ha : code ∈ authCodes
  · simp [ha]
  · by_cases hn : code ∈ notFoundCodes <;> simp [ha, hn]

theorem problemOfCode_eq_notFound (code : String) :
    problemOfCode code = .notFound ↔ code ∈ notFoundCodes := by
  have hdisjoint : ∀ c ∈ authCodes, c ∉ notFoundCodes := by decide
  unfold problemOfCode
  by_cases ha : code ∈ authCodes
  · simp [ha, hdisjoint code ha]
  · by_cases hn : code ∈ notFoundCodes <;> simp [ha, hn]

theorem problemOfCode_otherwise (code : String) (ha : problemOfCode code ≠ .auth)
    (hn : problemOfCode code ≠ .notFound) : problemOfCode code = .network := by
  rw [Ne, problemOfCode_eq_auth] at ha
  rw [Ne, problemOfCode_eq_notFound] at hn
  simp [problemOfCode, ha, hn]

/-- A refusal without a code is in no list of codes. -/
theorem getD_mem_iff {codes : List String} (h : "" ∉ codes) (code : Option String) :
    code.getD "" ∈ codes ↔ ∃ c, code = some c ∧ c ∈ codes := by
  cases code <;> simp [h]

theorem blaming_reports (storeId : String) {f : RemoteFault} (h : f.isCloud = true) :
    (blaming storeId f).Reports storeId f where
  storeId := rfl
  cause := rfl
  auth := by
    have hcodes : "" ∉ authCodes := by decide
    cases f with
    | service s =>
      simp [blaming, ofCloud, cloudProblem, problemOfCode_eq_auth, getD_mem_iff hcodes]
    | client k => cases k <;> simp [blaming, ofCloud, cloudProblem]
    | _ => cases h
  notFound := by
    have hcodes : "" ∉ notFoundCodes := by decide
    cases f with
    | service s =>
      simp [blaming, ofCloud, cloudProblem, problemOfCode_eq_notFound, getD_mem_iff hcodes]
    | client k => cases k <;> simp [blaming, ofCloud, cloudProblem]
    | _ => cases h
  otherwise := by
    cases f with
    | service s => exact problemOfCode_otherwise _
    | client k => cases k <;> simp [blaming, ofCloud, cloudProblem]
    | _ => cases h
  detail := by cases f <;> rfl

end FetchFault

/-- Reading a secret fails with a fault of decoding, or with one that is no fault of a fetch. -/
theorem Secret.fault_of_snapshot {room : Json.Room} {s : Secret} {storeId : String}
    {fault : FetchFault} (h : s.snapshot room storeId = .error (.fetch fault)) : fault.problem = .decode := by
  rw [snapshot] at h
  split at h
  · obtain ⟨p, hp, -⟩ | ⟨kind, hp, -⟩ := s.string.payload_eq <;> rw [hp] at h
    · exact (Snapshot.fault_of_payload h).1
    · cases h
  · split at h
    · obtain ⟨text, ht, -⟩ | ⟨kind, ht, -⟩ := s.binary.base64_eq <;> rw [ht] at h <;> cases h
    · cases h

def CloudService.backend : CloudService → CloudClient → Backend
  | .secrets, c => .secrets c
  | .parameters, c => .parameters c

def Entry.makesClient : Entry → Bool
  | .asked (.clientMade _ _) => true
  | _ => false

namespace CloudClient

/-- The fault that a fetch meets: in making a client where there is none yet, and else in the answer
to what the client is asked, which for parameters is that of the first bad page. -/
inductive Meets (w : World) (c : CloudClient) (storeId : String) :
    CloudService → RemoteFault → Prop where
  | making {service : CloudService} {f : RemoteFault} (hc : c.made = false)
      (hf : w.clientFault = some f) : Meets w c storeId service f
  | secret {f : RemoteFault} (hc : c.Usable w) (hf : w.secret storeId = .error f) :
      Meets w c storeId .secrets f
  | page {f : RemoteFault} {pages : List (List Parameter)} {rest : List Page} (hc : c.Usable w)
      (hf : w.pages (Parameter.pathOf storeId) = pages.map .ok ++ .error f :: rest) :
      Meets w c storeId .parameters f

theorem usable_or (w : World) (c : CloudClient) :
    c.Usable w ∨ c.made = false ∧ ∃ f, w.clientFault = some f := by
  unfold Usable
  cases c.made <;> cases w.clientFault <;> simp

def fetch (w : World) (c : CloudClient) (storeId : String) :
    CloudService → Journaled (CloudClient × Except Fault Snapshot)
  | .secrets => c.fetchSecret w storeId
  | .parameters => c.fetchParameters w storeId

section Fetch
variable (service : CloudService) (w : World) (c : CloudClient) (storeId : String)

theorem outcome_backend : (service.backend c).outcome (w, storeId) =
    (fun r => .ends r.2) <$> c.fetch w storeId service := by
  cases service <;> simp [Backend.outcome, CloudService.backend, Backend.advance, fetch]

def needed : CloudClient := { c with made := c.made || w.clientFault.isNone }

theorem acquire_client : (c.acquire w service).value.1 = c.needed w := by
  obtain ⟨region, made⟩ := c
  cases made <;> cases hw : w.clientFault <;> simp [acquire, needed, hw]

theorem acquire_entries : (c.acquire w service).entries =
    if c.made then [] else [.asked (.clientMade service.token c.region)] := by
  cases hm : c.made <;> cases hw : w.clientFault <;> simp [acquire, hm, hw, Journaled.ask]

theorem fetch_client : (c.fetch w storeId service).value.1 = c.needed w := by
  rw [← acquire_client service w c]
  cases service with
  | secrets =>
    simp only [fetch, fetchSecret, Journaled.value_bind]
    split
    · rfl
    · cases w.secret storeId <;> simp
  | parameters =>
    simp only [fetch, fetchParameters, Journaled.value_bind]
    split
    · rfl
    · cases Parameter.gather (w.pages (Parameter.pathOf storeId)) <;> simp

theorem fetch_makesClient : (c.fetch w storeId service).entries.filter Entry.makesClient =
    if c.made then [] else [.asked (.clientMade service.token c.region)] := by
  have hacquire : (c.acquire w service).entries.filter Entry.makesClient =
      if c.made then [] else [.asked (.clientMade service.token c.region)] := by
    rw [acquire_entries]
    cases c.made <;> rfl
  -- After that, the client is asked for other things.
  rw [← hacquire]
  cases service with
  | secrets =>
    simp only [fetch, fetchSecret, Journaled.entries_bind, List.filter_append]
    split
    · simp
    · cases w.secret storeId <;> simp [Journaled.ask, Entry.makesClient]
  | parameters =>
    simp only [fetch, fetchParameters, Journaled.entries_bind, List.filter_append]
    split
    · simp
    · cases Parameter.gather (w.pages (Parameter.pathOf storeId)) <;>
        simp [Journaled.ask, Journaled.say, Entry.makesClient]

variable {service w c storeId}

theorem fetch_of_fault {f : RemoteFault} (h : Meets w c storeId service f) :
    (c.fetch w storeId service).value.2 = .error (f.asCloudFault storeId) := by
  cases h with
  | making hc hf => cases service <;> simp [fetch, fetchSecret, fetchParameters, acquire, hc, hf]
  | secret hc hf => simp [fetch, fetchSecret, acquire_ok hc, hf]
  | page hc hf => exact parameters_of_fault hc hf

/-- Where no fault is met, it is at most the secret that cannot be read. -/
theorem fault_of_fetch (h : ∀ f, ¬Meets w c storeId service f) {fault : FetchFault}
    (hf : (c.fetch w storeId service).value.2 = .error (.fetch fault)) :
    fault.problem = .decode := by
  obtain hc | ⟨hc, f, hw⟩ := usable_or w c
  · cases service with
    | secrets =>
      cases hs : w.secret storeId with
      | error f => exact absurd (.secret hc hs) (h f)
      | ok secret =>
        have hsnapshot : secret.snapshot w.room storeId = .error (.fetch fault) := by
          rw [← hf]
          simp [fetch, fetchSecret, acquire_ok hc, hs]
        exact Secret.fault_of_snapshot hsnapshot
    | parameters =>
      obtain ⟨pages, hp⟩ | ⟨pages, f, rest, hp⟩ :=
        Parameter.pages_cases (w.pages (Parameter.pathOf storeId))
      · cases (parameters_of_pages hc hp).symm.trans hf
      · exact absurd (.page hc hp) (h f)
  · exact absurd (.making hc hw) (h f)

end Fetch

def since (c : CloudClient) (visits : List (World × String)) : CloudClient :=
  { c with made := c.made || visits.any fun v => v.1.clientFault.isNone }

theorem since_made (c : CloudClient) (visits : List (World × String)) :
    (c.since visits).made = true ↔ c.made = true ∨ ∃ v ∈ visits, v.1.clientFault = none := by
  simp [since]

theorem since_of_faults (c : CloudClient) {visits : List (World × String)}
    (h : ∀ v ∈ visits, v.1.clientFault ≠ none) : c.since visits = c := by
  have hany : (visits.any fun v => v.1.clientFault.isNone) = false := by simpa using h
  simp [since, hany]

theorem next_backend (service : CloudService) (c : CloudClient) (v : World × String) :
    (service.backend c).next v = service.backend (c.needed v.1) := by
  rw [← fetch_client service v.1 c v.2]
  cases service <;> simp [Backend.next, CloudService.backend, Backend.advance, fetch]

theorem foldl_next (service : CloudService) (c : CloudClient) (visits : List (World × String)) :
    visits.foldl Backend.next (service.backend c) = service.backend (c.since visits) := by
  induction visits generalizing c with
  | nil => simp [since]
  | cons v visits ih => simp [next_backend, ih, since, needed, Bool.or_assoc]

/-- What becomes of one fetch after others. A client is asked for unless there is one. A fault of
the cloud is reported, by a report that only it and the store decide; any other is passed on, and
nothing else is reported but what cannot be decoded. Where no client could be made before, the fetch
is as if it were the first. -/
structure Reporting (service : CloudService) (c : CloudClient) (before : List (World × String))
    (w : World) (storeId : String) (fetch : Journaled Progress) : Prop where
  clients : fetch.entries.filter Entry.makesClient =
    if c.made = true ∨ ∃ v ∈ before, v.1.clientFault = none then []
    else [.asked (.clientMade service.token c.region)]
  reported : ∀ f, Meets w (c.since before) storeId service f → f.isCloud = true →
    fetch.value = .ends (.error (.fetch (.blaming storeId f))) ∧
      (FetchFault.blaming storeId f).Reports storeId f
  unchanged : ∀ f, Meets w (c.since before) storeId service f → f.isCloud = false →
    fetch.value = .ends (.error (.remote f))
  reason : ∀ fault, fetch.value = .ends (.error (.fetch fault)) → fault.problem ≠ .decode →
    ∃ f, Meets w (c.since before) storeId service f ∧ f.isCloud = true ∧
      fault = .blaming storeId f
  forgotten : (∀ v ∈ before, v.1.clientFault ≠ none) →
    fetch = (service.backend c).outcome (w, storeId)

theorem reporting (service : CloudService) (c : CloudClient) (before after : List (World × String))
    (w : World) (storeId : String) : ∃ fetch,
    ((service.backend c).series (before ++ (w, storeId) :: after))[before.length]? = some fetch ∧
      Reporting service c before w storeId fetch := by
  refine ⟨_, Backend.getElem?_series _ before after (w, storeId), ?_⟩
  rw [foldl_next]
  have hmet : ∀ f, Meets w (c.since before) storeId service f →
      ((service.backend (c.since before)).outcome (w, storeId)).value =
        .ends (.error (f.asCloudFault storeId)) := fun f hf => by
    rw [outcome_backend, Journaled.value_map, fetch_of_fault hf]
  refine ⟨?_, fun f hf hcloud => ?_, fun f hf hcloud => ?_, fun fault hfault hproblem => ?_,
    fun hbefore => ?_⟩
  · rw [outcome_backend, Journaled.entries_map, fetch_makesClient]
    exact if_congr (since_made c before) rfl rfl
  · rw [hmet f hf, RemoteFault.asCloudFault, if_pos hcloud]
    exact ⟨rfl, FetchFault.blaming_reports storeId hcloud⟩
  · rw [hmet f hf, RemoteFault.asCloudFault, if_neg (by simp [hcloud])]
  · by_cases hf : ∃ f, Meets w (c.since before) storeId service f
    · obtain ⟨f, hf⟩ := hf
      rw [hmet f hf, RemoteFault.asCloudFault] at hfault
      split at hfault
      · next hcloud =>
        cases hfault
        exact ⟨f, hf, hcloud, rfl⟩
      · cases hfault
    · rw [outcome_backend, Journaled.value_map] at hfault
      exact absurd (fault_of_fetch (not_exists.1 hf) (Progress.ends.inj hfault)) hproblem
  · rw [since_of_faults c hbefore]

end CloudClient

end LiveConfig
