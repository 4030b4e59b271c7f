import LiveConfig.Proofs.Discovery
import LiveConfig.Proofs.Registration
set_option autoImplicit false

/-!
How long snapshots live where no interval is set. A snapshot is kept for good only on a deployment
that has the extension attached; there its namespace is behind the extension, as long as the
deployment says that it is a function.
-/
namespace LiveConfig

theorem StoreKind.read_value (raw : Option String) : (read raw).value =
    if normalize (raw.getD "") = parameters.token then .parameters else .secrets := by
  unfold read
  split
  · next hf =>
    have hraw : raw.getD "" = "" := by
      cases raw with
      | none => rfl
      | some r => simpa using hf
    rw [hraw]
    rfl
  · next r hf =>
    obtain ⟨rfl, -⟩ := Option.filter_eq_some_iff.1 hf
    have htokens : secrets.token ≠ parameters.token := by decide
    by_cases hp : normalize r = parameters.token
    · simp [ofToken?, hp, htokens]
    · by_cases hs : normalize r = secrets.token
      · simp [ofToken?, hs, htokens]
      · simp [ofToken?, Ne.symm hp, Ne.symm hs, hp]

namespace Settings

/-- The extension keeps the secrets of this deployment: it is on the platform of the extension and
has it attached, it runs functions, and its store is not said to be one of parameters. -/
structure Kept (env : Environment) : Prop where
  platform : Scope.platform ⟨defaultOuter, env⟩ = .aws
  functions : env.filled? runtimeVariable = none
  attached : (env.filled? Extension.portVariable).isSome = true
  secrets : (StoreKind.read (env.get? storeKindVariable)).value = .secrets

theorem servedByExtension_iff (env : Environment) :
    servedByExtension (Scope.platform ⟨defaultOuter, env⟩)
        (if (env.filled? runtimeVariable).isSome then .runtime else .functions)
        (env.filled? Extension.portVariable).isSome (env.get? storeKindVariable) = true ↔
      Kept env := by
  have hsecrets : (StoreKind.read (env.get? storeKindVariable)).value = .secrets ↔
      StoreKind.normalize ((env.get? storeKindVariable).getD "") ≠ StoreKind.parameters.token := by
    rw [StoreKind.read_value]
    split <;> simp_all
  have hfunctions : (if (env.filled? runtimeVariable).isSome then DeployTarget.runtime
      else .functions) = .functions ↔ env.filled? runtimeVariable = none := by
    cases env.filled? runtimeVariable <;> simp
  simp only [servedByExtension, Bool.and_eq_true, decide_eq_true_eq, hfunctions, ← hsecrets]
  constructor
  · rintro ⟨⟨⟨hp, hf⟩, ha⟩, hs⟩
    exact ⟨hp, hf, ha, hs⟩
  · rintro ⟨hp, hf, ha, hs⟩
    exact ⟨⟨⟨hp, hf⟩, ha⟩, hs⟩

theorem ofEnvironment_platform (env : Environment) :
    (ofEnvironment env).value.platform = Scope.platform ⟨defaultOuter, env⟩ := by
  cases h : env.get? intervalVariable <;> simp [ofEnvironment, h]

/-- Where no interval is set, snapshots are kept for good when the extension keeps them, and for the
usual time when it does not. -/
theorem ofEnvironment_interval {env : Environment} (h : env.get? intervalVariable = none) :
    (Kept env ∧ (ofEnvironment env).value.interval = none) ∨
      (¬Kept env ∧ (ofEnvironment env).value.interval = some defaultInterval) := by
  have hi : (ofEnvironment env).value.interval =
      if servedByExtension (Scope.platform ⟨defaultOuter, env⟩)
        (if (env.filled? runtimeVariable).isSome then .runtime else .functions)
        (env.filled? Extension.portVariable).isSome (env.get? storeKindVariable)
      then none else some defaultInterval := by simp [ofEnvironment, h]
  by_cases hk : Kept env
  · exact .inl ⟨hk, by rw [hi, if_pos ((servedByExtension_iff env).2 hk)]⟩
  · exact .inr ⟨hk, by rw [hi, if_neg (mt (servedByExtension_iff env).1 hk)]⟩

/-- The only binding of a single store has the kind that is set for it. -/
theorem kind_of_single {env : Environment} (h : (env.filled? storeIdVariable).isSome = true)
    {b : Binding} (hb : b ∈ (ofEnvironment env).value.bindings) :
    b.kind = env.get? storeKindVariable := by
  have hs : (env.get? storeIdVariable).getD "" ≠ "" := by
    intro hs
    rw [(filled?_eq_none_iff env _).2 hs] at h
    cases h
  rw [ofEnvironment_bindings, discover, if_pos hs, List.mem_singleton] at hb
  rw [hb]

end Settings

namespace Backend
variable {s : Surroundings}

/-- On the platform of the extension a store of secrets is read through it when the deployment names
its function, and directly when it does not. -/
theorem select_aws (hattached : (s.environment.filled? Extension.portVariable).isSome = true)
    (kind : Option String) :
    (∃ client, (select s .aws kind).value = .parameters client ∧
        (StoreKind.read kind).value = .parameters) ∨
      ((s.environment.filled? functionVariable).isSome = true ∧
        ∃ x, (select s .aws kind).value = .extension x freshSecrets) ∨
      (s.environment.filled? functionVariable = none ∧
        (select s .aws kind).value = freshSecrets) := by
  obtain ⟨port, hport⟩ := Option.isSome_iff_exists.1 hattached
  have hs : (select s .aws kind).value = forCloud s (StoreKind.read kind).value := rfl
  cases hk : (StoreKind.read kind).value with
  | parameters => exact .inl ⟨_, by rw [hs, hk]; rfl, rfl⟩
  | secrets =>
    right
    cases hf : s.environment.filled? functionVariable with
    | none => exact .inr ⟨rfl, by simp [hs, hk, forCloud, hf]⟩
    | some name => exact .inl ⟨rfl, _, by simp [hs, hk, forCloud, hf, hport]; rfl⟩

end Backend

/-- What is known of the snapshots of a namespace where no interval is set. They live for the usual
time, or for good; for good only where the extension keeps them, and of a single store only when it
is one of secrets. A namespace whose snapshots live for good and whose store is not one of
parameters is behind the extension when the deployment names its function, and else reads its
secrets directly. -/
structure Namespace.Lifetime (env : Environment) (n : Namespace) : Prop where
  usual : n.interval = none ∨ n.interval = some Settings.defaultInterval
  kept : n.interval = none → Settings.Kept env
  single : n.interval = none → (env.filled? Settings.storeIdVariable).isSome = true →
    ∀ client, n.backend ≠ .parameters client
  served : n.interval = none → (∀ client, n.backend ≠ .parameters client) →
    ((env.filled? functionVariable).isSome = true ∧ ∃ x, n.backend = .extension x .freshSecrets) ∨
      (env.filled? functionVariable = none ∧ n.backend = .freshSecrets)

/-- Where no interval is set, every namespace of the service that is built has such a lifetime. -/
theorem namespace_lifetime {s : Surroundings} {service : Service}
    (hinterval : s.environment.get? Settings.intervalVariable = none)
    (hbuild : (Service.build s (Settings.ofEnvironment s.environment).value).value = .ok service)
    {name : String} {id : Nat} (hname : service.find name = .ok id) :
    ∃ n, service.get? id = some n ∧ n.Lifetime s.environment := by
  obtain ⟨-, service', hb, hholds⟩ | ⟨taken, -, hb⟩ :=
    Service.build_cases s (Settings.ofEnvironment s.environment).value
  · cases hbuild.symm.trans hb
    obtain ⟨n, hn, hmem⟩ := hholds.get?_of_find hname
    obtain ⟨b, hbinding, hspace⟩ := List.mem_map.1 hmem
    refine ⟨n, hn, ?_⟩
    cases hspace
    obtain ⟨hkept, hi⟩ | ⟨-, hi⟩ := Settings.ofEnvironment_interval hinterval
    · have hselect := Backend.select_aws hkept.attached b.kind
      rw [← hkept.platform, ← Settings.ofEnvironment_platform] at hselect
      refine ⟨.inl hi, fun _ => hkept, fun _ hsingle client hclient => ?_, fun _ hother => ?_⟩
      · obtain ⟨-, -, hkind⟩ | ⟨-, x, hx⟩ | ⟨-, hx⟩ := hselect
        · rw [Settings.kind_of_single hsingle hbinding, hkept.secrets] at hkind
          cases hkind
        · cases hx.symm.trans hclient
        · cases hx.symm.trans hclient
      · obtain ⟨client, hclient, -⟩ | hserved := hselect
        · exact absurd hclient (hother client)
        · exact hserved
    · have hne : ¬(Settings.ofEnvironment s.environment).value.interval = none := by simp [hi]
      exact ⟨.inr hi, fun h => absurd h hne, fun h => absurd h hne, fun h => absurd h hne⟩
  · cases hbuild.symm.trans hb

def attached (more : List (String × String)) : Surroundings :=
  ⟨.empty, some (.ofList (("CELERITY_PLATFORM", "aws") ::
    ("PARAMETERS_SECRETS_EXTENSION_HTTP_PORT", "2773") ::
    ("CELERITY_CONFIG_STORE_ID", "my-secret") :: more))⟩

def named : Surroundings := attached [("AWS_LAMBDA_FUNCTION_NAME", "handler")]

theorem namespace_lifetime_named : ∃ service n x,
    (Service.build named (Settings.ofEnvironment named.environment).value).value = .ok service ∧
      service.find "default" = .ok 0 ∧ service.get? 0 = some n ∧ n.interval = none ∧
      n.backend = .extension x .freshSecrets ∧ n.Lifetime named.environment := by
  refine ⟨_, _, _, rfl, rfl, rfl, rfl, rfl, ?_⟩
  have hi : named.environment.get? Settings.intervalVariable = none := by decide
  have hb : (Service.build named (Settings.ofEnvironment named.environment).value).value =
      .ok _ := rfl
  obtain ⟨n, hn, hl⟩ := namespace_lifetime hi hb (show Service.find _ "default" = .ok 0 from rfl)
  cases hn
  exact hl

/-- When the function is not named, the secrets are read directly, and yet kept for good. -/
theorem kept_without_extension : ¬∀ (s : Surroundings) (service : Service) (name : String)
    (id : Nat) (n : Namespace), s.environment.get? Settings.intervalVariable = none →
      (Service.build s (Settings.ofEnvironment s.environment).value).value = .ok service →
      service.find name = .ok id → service.get? id = some n → n.interval = none →
      ∃ x fallback, n.backend = .extension x fallback := by
  intro hclaim
  have hi : (attached []).environment.get? Settings.intervalVariable = none := by decide
  have hb : (Service.build (attached []) (Settings.ofEnvironment
      (attached []).environment).value).value = .ok _ := rfl
  obtain ⟨x, fallback, hx⟩ := hclaim (attached []) _ "default" 0 _ hi hb rfl rfl rfl
  cases hx

end LiveConfig
