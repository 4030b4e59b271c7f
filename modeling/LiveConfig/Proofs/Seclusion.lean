import LiveConfig.Proofs.Registration
set_option autoImplicit false

/-!
What an environment that is given keeps out. The settings are read from it alone, and so are the
namespaces and their backends, but for one thing: where it names no host for the cache, the process
environment does.
-/
namespace LiveConfig

namespace CacheAddress

def processHost (process : Environment) : String := (process.get? hostVariable).getD defaultHost

theorem readPort_ne_zero (raw : Option String) : (readPort raw).value ≠ 0 := by
  have hdefault : defaultPort ≠ 0 := by decide
  unfold readPort
  split
  · exact hdefault
  · split
    · split
      · next h =>
        intro hz
        have hn := Int.toNat_eq_zero.1 hz
        omega
      · exact hdefault
    · exact hdefault

/-- With a port, nothing but the host is missing. -/
theorem complete_of_port (process : Environment) (host : Option String) {port : Int}
    (h : port ≠ 0) : complete process host (some port) =
      pure ⟨(host.filter (· ≠ "")).getD (processHost process), port⟩ := by
  have hf : (some port).filter (· ≠ 0) = some port := by simp [Option.filter, h]
  simp only [complete, hf]
  rfl

end CacheAddress

/-- With a port and a token, nothing is missing. -/
theorem Extension.complete_of_given (process : Environment) {port : String} (h : port ≠ "")
    (token : String) : complete process (some port) (some token) = ⟨port, token⟩ := by
  have hf : (some port).filter (· ≠ "") = some port := by simp [Option.filter, h]
  rw [complete, hf]
  rfl

namespace Backend

def unhosted : Backend → Backend
  | .cache address => .cache { address with host := "" }
  | b => b

section Given
variable (env process process' : Environment)

/-- An extension is found where its port is given, and its token is then given as well. -/
theorem forCloud_given (kind : StoreKind) :
    forCloud ⟨process, some env⟩ kind = forCloud ⟨process', some env⟩ kind := by
  cases kind with
  | parameters => rfl
  | secrets =>
    simp only [forCloud, Surroundings.environment, Option.getD_some]
    split
    · next port _ hport =>
      have hne : port ≠ "" := by
        obtain ⟨-, h⟩ := Option.filter_eq_some_iff.1 hport
        simpa using h
      rw [Extension.complete_of_given process hne, Extension.complete_of_given process' hne]
    · rfl

theorem select_workstation (kind : Option String) :
    select ⟨process, some env⟩ .workstation kind =
      (fun port : Nat => .cache
        ⟨(env.filled? CacheAddress.hostVariable).getD (CacheAddress.processHost process), port⟩) <$>
          CacheAddress.readPort (env.get? CacheAddress.portVariable) := by
  have hp := CacheAddress.readPort_ne_zero (env.get? CacheAddress.portVariable)
  have hc := CacheAddress.complete_of_port process (env.get? CacheAddress.hostVariable)
    (Int.natCast_ne_zero.2 hp)
  simp only [select, Surroundings.environment, Option.getD_some, bind, hc]
  rfl

variable {env process process'}

theorem select_given {platform : Platform}
    (h : platform = .workstation → env.filled? CacheAddress.hostVariable = none →
      CacheAddress.processHost process = CacheAddress.processHost process')
    (kind : Option String) :
    select ⟨process, some env⟩ platform kind = select ⟨process', some env⟩ platform kind := by
  cases platform with
  | aws => simp only [select, forCloud_given env process process']
  | workstation =>
    rw [select_workstation, select_workstation]
    cases hhost : env.filled? CacheAddress.hostVariable with
    | some host => rfl
    | none => simp only [Option.getD_none, h rfl hhost]
  | _ => rfl

theorem select_unhosted (platform : Platform) (kind : Option String) :
    (select ⟨process, some env⟩ platform kind).value.unhosted =
      (select ⟨process', some env⟩ platform kind).value.unhosted := by
  by_cases hp : platform = .workstation
  · subst hp
    rw [select_workstation, select_workstation]
    rfl
  · exact congrArg (fun x => x.value.unhosted) (select_given (fun h => absurd h hp) kind)

end Given

end Backend

def Namespace.unhosted (n : Namespace) : Namespace := { n with backend := n.backend.unhosted }

namespace Service

def unhosted (service : Service) : Service :=
  { service with namespaces := service.namespaces.map Namespace.unhosted }

theorem register_value (service : Service) (name : String) (n : Namespace) :
    (service.register name n).value =
      if service.names.contains name then .error (.namespaceTaken name)
      else .ok ⟨service.namespaces ++ [n],
        service.names.insert name service.namespaces.length⟩ := by
  cases h : service.names.contains name <;> simp [register, adopt, assignName, h]

theorem register_unhosted {service service' : Service} (h : service.unhosted = service'.unhosted)
    (name : String) {n n' : Namespace} (hn : n.unhosted = n'.unhosted) :
    (service.register name n).value.map unhosted =
      (service'.register name n').value.map unhosted := by
  obtain ⟨hspaces, hnames⟩ := (mk.injEq ..).mp h
  have hlength : service.namespaces.length = service'.namespaces.length := by
    simpa using congrArg List.length hspaces
  rw [register_value, register_value, hnames, hlength]
  split
  · rfl
  · simp [Except.map, unhosted, hspaces, hn]

variable {s s' : Surroundings} {platform : Platform}

/-- Nothing but the selection of backends looks at the surroundings. -/
theorem addBindings_congr
    (h : ∀ kind, Backend.select s platform kind = Backend.select s' platform kind)
    (interval : Option Int) (service : Service) (bs : List Binding) :
    addBindings s platform interval service bs = addBindings s' platform interval service bs := by
  induction bs generalizing service with
  | nil => rfl
  | cons b bs ih => simp only [addBindings, h, ih]

theorem addBindings_unhosted
    (h : ∀ kind, (Backend.select s platform kind).value.unhosted =
      (Backend.select s' platform kind).value.unhosted)
    (interval : Option Int) {service service' : Service} (hs : service.unhosted = service'.unhosted)
    (bs : List Binding) :
    (addBindings s platform interval service bs).value.map unhosted =
      (addBindings s' platform interval service' bs).value.map unhosted := by
  induction bs generalizing service service' with
  | nil => exact congrArg Except.ok hs
  | cons b bs ih =>
    have hn : (spaceOf s platform interval b).unhosted =
        (spaceOf s' platform interval b).unhosted := by
      simp only [spaceOf, Namespace.unhosted, Namespace.fresh, h]
    have hr := register_unhosted hs b.name hn
    simp only [spaceOf] at hr
    simp only [addBindings, Journaled.value_bind]
    generalize (service.register b.name _).value = r at hr
    generalize (service'.register b.name _).value = r' at hr
    cases r with
    | error f =>
      cases r' with
      | error f' => exact hr
      | ok next' => cases hr
    | ok next =>
      cases r' with
      | error f' => cases hr
      | ok next' => exact ih (Except.ok.inj hr)

end Service

/-- What becomes of one given environment in two processes. The settings are the same. So is what
building a service comes to, unless the service is for a workstation and the environment names no
host for the cache, while the processes name two; then it is the same but for the hosts of the
caches, which are those that the processes name. -/
structure Seclusion (env process process' : Environment) (settings : Settings) : Prop where
  read : Settings.ofEnvironment (Surroundings.environment ⟨process, some env⟩) =
    Settings.ofEnvironment (Surroundings.environment ⟨process', some env⟩)
  same : (settings.platform = .workstation → env.filled? CacheAddress.hostVariable = none →
      CacheAddress.processHost process = CacheAddress.processHost process') →
    Service.build ⟨process, some env⟩ settings = Service.build ⟨process', some env⟩ settings
  unhosted : (Service.build ⟨process, some env⟩ settings).value.map Service.unhosted =
    (Service.build ⟨process', some env⟩ settings).value.map Service.unhosted
  hosts : settings.platform = .workstation → env.filled? CacheAddress.hostVariable = none →
    ∀ service, (Service.build ⟨process, some env⟩ settings).value = .ok service →
      ∀ n ∈ service.namespaces, ∃ port, n.backend = .cache ⟨CacheAddress.processHost process, port⟩

theorem seclusion (env process process' : Environment) (settings : Settings) :
    Seclusion env process process' settings := by
  refine ⟨rfl, fun h => ?_, ?_, fun hplatform hhost service hbuild n hn => ?_⟩
  · exact Service.addBindings_congr (Backend.select_given h) _ _ _
  · exact Service.addBindings_unhosted (Backend.select_unhosted _) _ rfl _
  · rw [(Service.holds_of_build hbuild).namespaces, List.map_map] at hn
    obtain ⟨b, -, rfl⟩ := List.mem_map.1 hn
    refine ⟨(CacheAddress.readPort (env.get? CacheAddress.portVariable)).value, ?_⟩
    rw [hplatform]
    simp only [Function.comp_apply, Service.spaceOf, Namespace.fresh, Backend.select_workstation,
      hhost]
    rfl

def hostless : Environment :=
  .ofList [("CELERITY_PLATFORM", "local"), ("CELERITY_CONFIG_STORE_ID", "s")]

def elsewhere : Environment := .ofList [("CELERITY_CONFIG_VALKEY_HOST", "elsewhere")]

/-- The host of the process gets into a service that is built from an environment of its own. -/
theorem host_of_process : ¬∀ (env process process' : Environment) (service service' : Service),
    (Service.build ⟨process, some env⟩ (Settings.ofEnvironment env).value).value = .ok service →
    (Service.build ⟨process', some env⟩ (Settings.ofEnvironment env).value).value = .ok service' →
      service.namespaces.map Namespace.backend = service'.namespaces.map Namespace.backend := by
  intro hclaim
  have hsame := hclaim hostless .empty elsewhere _ _ rfl rfl
  have hcaches : Backend.cache ⟨"localhost", 6379⟩ = .cache ⟨"elsewhere", 6379⟩ :=
    (List.cons.inj hsame).1
  have hhosts := congrArg CacheAddress.host (Backend.cache.inj hcaches)
  revert hhosts
  decide

end LiveConfig
