import LiveConfig.Proofs.Lifetime
import LiveConfig.Proofs.Notices
import LiveConfig.Proofs.Roster
import LiveConfig.Proofs.Seclusion
set_option autoImplicit false

/-!
When the variables that tell kinds of stores do not matter. Off the cloud provider nothing depends
on them; on it, what they say is the same in any case and with any blanks around it. It is not
compared what is logged on the way: there a kind that is unknown is quoted as it is spelt.
-/
namespace LiveConfig

def Service.wiring (s : Surroundings) : Journaled (Except Fault Service) := do
  let settings ← Settings.ofEnvironment s.environment
  Service.build s settings

namespace Settings

def tellsKind (name : String) : Bool :=
  name = storeKindVariable ||
    ((Text.dropStart? bindingStart name).bind (Text.dropEnd? storeKindEnd)).isSome

theorem tellsKind_iff (name : String) : tellsKind name = true ↔
    name = "CELERITY_CONFIG_STORE_KIND" ∨
      ∃ own, name = "CELERITY_CONFIG_" ++ own ++ "_STORE_KIND" := by
  simp only [tellsKind, Bool.or_eq_true, decide_eq_true_eq, Option.isSome_iff_exists,
    Option.bind_eq_some_iff, Text.dropStart?_eq_some, Text.dropEnd?_eq_some]
  refine or_congr Iff.rfl ⟨?_, ?_⟩
  · rintro ⟨own, _, rfl, rfl⟩
    exact ⟨own, by rw [String.append_assoc]; rfl⟩
  · rintro ⟨own, rfl⟩
    exact ⟨own, _, by rw [String.append_assoc]; rfl, rfl⟩

/-- A variable does not tell a store and a kind at once. -/
theorem tellsKind_storeVariable (own : String) :
    tellsKind (Environment.storeVariable own) = false := by
  have hend : ∀ start, Environment.storeVariable own ≠ start ++ "_STORE_KIND" := by
    intro start h
    have hlast : ("CELERITY_CONFIG_" ++ own ++ "_STORE_ID").toList.reverse[1]? =
        (start ++ "_STORE_KIND").toList.reverse[1]? :=
      congrArg (fun name => name.toList.reverse[1]?) h
    simp at hlast
  rw [Bool.eq_false_iff, Ne, tellsKind_iff]
  rintro (h | ⟨own', h⟩)
  · exact hend "CELERITY_CONFIG" (h.trans (by decide))
  · exact hend _ h

end Settings

open Settings

namespace Environment
variable {env env' env'' : Environment}

/-- The same variables but for those that tell kinds, in any order. -/
def AlikeButKinds (env env' : Environment) : Prop :=
  ∀ name, tellsKind name = false → env.get? name = env'.get? name

/-- The kinds that are told are the same in lower case and without blanks around them. A kind that
is not told is like an empty one. -/
def SameKinds (env env' : Environment) : Prop :=
  ∀ name, tellsKind name = true → StoreKind.normalize ((env.get? name).getD "") =
    StoreKind.normalize ((env'.get? name).getD "")

theorem AlikeButKinds.refl (env : Environment) : env.AlikeButKinds env := fun _ _ => rfl

theorem alikeButKinds_insert {name : String} (h : tellsKind name = true) (env : Environment)
    (kind : String) : env.AlikeButKinds (env.insert name kind) := by
  intro other hother
  have hne : other ≠ name := by
    rintro rfl
    simp [h] at hother
  simp [hne]

namespace AlikeButKinds

theorem symm (h : env.AlikeButKinds env') : env'.AlikeButKinds env :=
  fun name hn => (h name hn).symm

theorem trans (h : env.AlikeButKinds env') (h' : env'.AlikeButKinds env'') :
    env.AlikeButKinds env'' := fun name hn => (h name hn).trans (h' name hn)

section
variable (h : env.AlikeButKinds env')
include h

theorem filled? (name : String) (hn : tellsKind name = false) :
    env.filled? name = env'.filled? name := by
  rw [Environment.filled?, Environment.filled?, h name hn]

theorem declares {own : String} (hd : env.Declares own) : env'.Declares own :=
  ⟨hd.named, h.filled? _ (tellsKind_storeVariable own) ▸ hd.filled⟩

theorem owns : (Settings.owns env).Perm (Settings.owns env') := by
  refine (List.perm_ext_iff_of_nodup (owns_nodup env) (owns_nodup env')).2 fun own => ?_
  rw [mem_owns, mem_owns]
  exact ⟨h.declares, h.symm.declares⟩

theorem platform : Scope.platform ⟨defaultOuter, env⟩ = Scope.platform ⟨defaultOuter, env'⟩ := by
  have hn : tellsKind (defaultOuter ++ "_PLATFORM") = false := by decide
  simp only [Scope.platform, h _ hn]

/-- What is made of the name, the store and the kind of each binding. -/
theorem bindings {β : Type} (k k' : Option String → β)
    (hk : ∀ name, tellsKind name = true → k (env.get? name) = k' (env'.get? name)) :
    ((ofEnvironment env).value.bindings.map fun b => (b.name, b.storeId, k b.kind)).Perm
      ((ofEnvironment env').value.bindings.map fun b => (b.name, b.storeId, k' b.kind)) := by
  have hfilled := h.filled? storeIdVariable (by decide)
  cases hs : env.filled? storeIdVariable with
  | some id =>
    rw [bindings_of_single env hs, bindings_of_single env' (hfilled ▸ hs)]
    simp [hk storeKindVariable (by decide)]
  | none =>
    rw [bindings_of_several env hs, bindings_of_several env' (hfilled ▸ hs)]
    refine ((List.mergeSort_perm _ _).map _).trans
      (List.Perm.trans ?_ ((List.mergeSort_perm _ _).map _).symm)
    rw [List.map_map, List.map_map]
    refine .trans (.of_eq (List.map_congr_left fun own _ => ?_)) (h.owns.map _)
    have hkind := hk ("CELERITY_CONFIG_" ++ own ++ "_STORE_KIND")
      ((tellsKind_iff _).2 (.inr ⟨own, rfl⟩))
    simp [bindingOf, h _ (tellsKind_storeVariable own), hkind]

end

end AlikeButKinds

end Environment

namespace Settings
variable {env env' : Environment}

theorem pairwise_bindings (env : Environment) :
    (ofEnvironment env).value.bindings.Pairwise fun a b => a.before b = true := by
  cases hs : env.filled? storeIdVariable with
  | some id => simp [bindings_of_single env hs]
  | none =>
    rw [bindings_of_several env hs]
    exact Binding.pairwise_before _

/-- The interval does not depend on how kinds are told where it does not depend on kinds, or where
they are the same. -/
theorem interval_congr (h : env.AlikeButKinds env')
    (hk : Scope.platform ⟨defaultOuter, env⟩ = .aws → env.SameKinds env') :
    (ofEnvironment env).value.interval = (ofEnvironment env').value.interval := by
  have hi := h intervalVariable (by decide)
  have hr := h.filled? runtimeVariable (by decide)
  have hp := h.filled? Extension.portVariable (by decide)
  cases hraw : env.get? intervalVariable with
  | some raw => simp [ofEnvironment, hraw, ← hi]
  | none =>
    have hserved : ∀ target extensionCache,
        servedByExtension (Scope.platform ⟨defaultOuter, env⟩) target extensionCache
            (env.get? storeKindVariable) =
          servedByExtension (Scope.platform ⟨defaultOuter, env⟩) target extensionCache
            (env'.get? storeKindVariable) := by
      intro target extensionCache
      by_cases haws : Scope.platform ⟨defaultOuter, env⟩ = .aws
      · simp only [servedByExtension, hk haws storeKindVariable (by decide)]
      · simp [servedByExtension, haws]
    simp [ofEnvironment, hraw, ← hi, ← hr, ← hp, ← h.platform, hserved]

end Settings

namespace Backend
variable {s s' : Surroundings}

theorem forCloud_congr (h : s.environment.AlikeButKinds s'.environment)
    (hp : s.process.AlikeButKinds s'.process) (kind : StoreKind) :
    forCloud s kind = forCloud s' kind := by
  have hf := h.filled? functionVariable (by decide)
  have hport := h.filled? Extension.portVariable (by decide)
  have ht := h Extension.tokenVariable (by decide)
  have hpport := hp Extension.portVariable (by decide)
  have hpt := hp Extension.tokenVariable (by decide)
  simp only [forCloud, Extension.complete, hf, hport, ht, hpport, hpt]

theorem select_congr (h : s.environment.AlikeButKinds s'.environment)
    (hp : s.process.AlikeButKinds s'.process) {platform : Platform} {kind kind' : Option String}
    (hk : platform = .aws →
      StoreKind.normalize (kind.getD "") = StoreKind.normalize (kind'.getD "")) :
    (select s platform kind).value = (select s' platform kind').value := by
  have hh := h CacheAddress.hostVariable (by decide)
  have hport := h CacheAddress.portVariable (by decide)
  have hph := hp CacheAddress.hostVariable (by decide)
  have hpport := hp CacheAddress.portVariable (by decide)
  cases platform with
  | aws =>
    simp only [select, Journaled.value_bind, Journaled.value_pure, StoreKind.read_value, hk rfl,
      forCloud_congr h hp]
  | workstation => simp only [select, CacheAddress.complete, hh, hport, hph, hpport]
  | _ => rfl

end Backend

namespace Service

section
variable {s s' : Surroundings} {platform platform' : Platform} {interval interval' : Option Int}

/-- Whether bindings make a service, and which of them is refused, can be told from their names. -/
theorem addBindings_names {service service' : Service} (h : service.nameList = service'.nameList)
    {bs bs' : List Binding} (hb : bs.map Binding.name = bs'.map Binding.name) :
    (addBindings s platform interval service bs).value.map nameList =
      (addBindings s' platform' interval' service' bs').value.map nameList := by
  induction bs generalizing service service' bs' with
  | nil =>
    rw [List.map_nil, eq_comm, List.map_eq_nil_iff] at hb
    subst hb
    exact congrArg Except.ok h
  | cons b bs ih =>
    cases bs' with
    | nil => cases hb
    | cons b' bs' =>
      obtain ⟨hname, hrest⟩ := List.cons.inj hb
      have hkeys : service.names.keys = service'.names.keys := h
      have hc : service.names.contains b.name = service'.names.contains b'.name := by
        rw [Bool.eq_iff_iff, Table.contains_eq_true_iff, Table.contains_eq_true_iff, hkeys, hname]
      simp only [addBindings, Journaled.value_bind, register_value, hc]
      cases service'.names.contains b'.name with
      | true => exact congrArg (fun name => Except.error (Fault.namespaceTaken name)) hname
      | false =>
        refine ih ?_ hrest
        simp only [nameList, Table.keys_insert, hkeys, hname]

end

/-- A service has nothing but its namespaces and their names. -/
theorem Holds.unique {service service' : Service} {spaces : List (String × Namespace)}
    (h : service.Holds spaces) (h' : service'.Holds spaces) : service = service' := by
  obtain ⟨namespaces, ⟨entries, distinct⟩⟩ := service
  obtain ⟨namespaces', ⟨entries', distinct'⟩⟩ := service'
  obtain ⟨rfl, hnames⟩ := h
  obtain ⟨rfl, hnames'⟩ := h'
  cases hnames.trans hnames'.symm
  rfl

def spacesOf (s : Surroundings) (settings : Settings) : List (String × Namespace) :=
  settings.bindings.map fun b => (b.name, spaceOf s settings.platform settings.interval b)

theorem spacesOf_names (s : Surroundings) (settings : Settings) :
    (spacesOf s settings).map Prod.fst = settings.bindings.map Binding.name := List.map_map

theorem pairwise_spacesOf {settings : Settings}
    (h : settings.bindings.Pairwise fun a b => a.before b = true) (s : Surroundings) :
    (spacesOf s settings).Pairwise fun a b => a.1 ≤ b.1 :=
  List.pairwise_map.2 (h.imp of_decide_eq_true)

/-- Settings that ask for the same namespaces in the order of their names come to the same, even
where the order of those with one name is not the same. -/
theorem build_of_perm {s s' : Surroundings} {settings settings' : Settings}
    (h : settings.bindings.Pairwise fun a b => a.before b = true)
    (h' : settings'.bindings.Pairwise fun a b => a.before b = true)
    (hperm : (spacesOf s settings).Perm (spacesOf s' settings')) :
    (build s settings).value = (build s' settings').value := by
  have hsort := pairwise_spacesOf h s
  have hsort' := pairwise_spacesOf h' s'
  have hnames : (spacesOf s settings).map Prod.fst = (spacesOf s' settings').map Prod.fst :=
    (hperm.map _).eq_of_pairwise (fun a b _ _ => String.le_antisymm) (List.pairwise_map.2 hsort)
      (List.pairwise_map.2 hsort')
  have hmap : (build s settings).value.map nameList = (build s' settings').value.map nameList := by
    rw [spacesOf_names, spacesOf_names] at hnames
    exact addBindings_names rfl hnames
  obtain ⟨hnodup, service, hb, hholds⟩ | ⟨name, -, hb⟩ := build_cases s settings <;>
    obtain ⟨-, service', hb', hholds'⟩ | ⟨name', -, hb'⟩ := build_cases s' settings' <;>
    rw [hb, hb'] at hmap ⊢
  · -- Names that are all different leave only one order.
    rw [← spacesOf_names s] at hnodup
    have hinj := List.inj_on_of_nodup_map hnodup
    have hspaces : spacesOf s settings = spacesOf s' settings' := hperm.eq_of_pairwise
      (fun a b ha hb hab hba => hinj ha (hperm.mem_iff.2 hb) (String.le_antisymm hab hba))
      hsort hsort'
    have hspaces' : service'.Holds (spacesOf s settings) := by
      rw [hspaces]
      exact hholds'
    rw [hholds.unique hspaces']
  · cases hmap
  · cases hmap
  · exact congrArg Except.error (Except.error.inj hmap)

/-- Off the cloud provider nothing is said of a kind that is unknown. -/
theorem wiring_quiet {s : Surroundings}
    (h : Scope.platform ⟨defaultOuter, s.environment⟩ ≠ .aws) (raw : String) :
    .said (.unknownStoreKind raw) ∉ (wiring s).entries := by
  have hother : Tells (fun n => n ≠ .unknownStoreKind raw) (wiring s).entries :=
    Journaled.tells_bind (ofEnvironment_tells (fun _ he => by cases he) _)
      (addBindings_tells (fun _ he => by cases he) s
        (fun haws => absurd (ofEnvironment_platform _ ▸ haws) h) (fun _ _ he => by cases he) _ _ _)
  intro hmem
  obtain ⟨n, hn, hne⟩ := hother _ hmem
  exact hne (Entry.said.inj hn).symm

variable {s s' : Surroundings}

/-- Alike surroundings make the same service where kinds do not matter, and where the kinds that are
told are the same. -/
theorem wiring_congr (h : s.environment.AlikeButKinds s'.environment)
    (hp : s.process.AlikeButKinds s'.process)
    (hk : Scope.platform ⟨defaultOuter, s.environment⟩ = .aws →
      s.environment.SameKinds s'.environment) :
    (wiring s).value = (wiring s').value := by
  have hplatform : (Settings.ofEnvironment s.environment).value.platform =
      (Settings.ofEnvironment s'.environment).value.platform := by
    rw [ofEnvironment_platform, ofEnvironment_platform, h.platform]
  have hinterval := interval_congr h hk
  have hbindings := h.bindings
    (fun kind =>
      (Backend.select s (Settings.ofEnvironment s.environment).value.platform kind).value)
    (fun kind =>
      (Backend.select s' (Settings.ofEnvironment s.environment).value.platform kind).value)
    fun name hn => Backend.select_congr h hp fun haws =>
      hk (ofEnvironment_platform _ ▸ haws) name hn
  refine build_of_perm (pairwise_bindings _) (pairwise_bindings _) ?_
  have hspaces := hbindings.map fun e : String × String × Backend =>
    (e.1, Namespace.fresh e.2.2 e.2.1
      (Settings.ofEnvironment s.environment).value.interval (some e.1))
  rw [List.map_map, List.map_map] at hspaces
  simp only [spacesOf, spaceOf, ← hplatform, ← hinterval]
  exact hspaces

end Service

/-- What becomes of two environments that differ in the kinds that they tell. Off the cloud provider
they make the same service, with the same names, stores, intervals and backends, or fail in the same
way. So they do anywhere if each kind is the same but for case and outer blanks. Off the cloud
provider there is no warning about a kind. -/
structure Indifference (s s' : Surroundings) : Prop where
  elsewhere : Scope.platform ⟨defaultOuter, s.environment⟩ ≠ .aws →
    (Service.wiring s).value = (Service.wiring s').value
  spelling : s.environment.SameKinds s'.environment →
    (Service.wiring s).value = (Service.wiring s').value
  quiet : Scope.platform ⟨defaultOuter, s.environment⟩ ≠ .aws → ∀ raw,
    .said (.unknownStoreKind raw) ∉ (Service.wiring s).entries ∧
      .said (.unknownStoreKind raw) ∉ (Service.wiring s').entries

theorem indifference {s s' : Surroundings} (h : s.environment.AlikeButKinds s'.environment)
    (hp : s.process.AlikeButKinds s'.process) : Indifference s s' where
  elsewhere haws := Service.wiring_congr h hp fun h => absurd h haws
  spelling hk := Service.wiring_congr h hp fun _ => hk
  quiet haws raw :=
    ⟨Service.wiring_quiet haws raw, Service.wiring_quiet (h.platform ▸ haws) raw⟩

def spelt (kind : String) : Surroundings :=
  ⟨.empty, some ((Table.ofList [("CELERITY_PLATFORM", "aws"),
    ("CELERITY_CONFIG_STORE_ID", "/app")]).insert "CELERITY_CONFIG_STORE_KIND" kind)⟩

theorem spelt_alike (kind kind' : String) :
    (spelt kind).environment.AlikeButKinds (spelt kind').environment :=
  (Environment.alikeButKinds_insert (by decide) _ kind).symm.trans
    (Environment.alikeButKinds_insert (by decide) _ kind')

theorem spelt_same (kind kind' : String)
    (h : StoreKind.normalize kind = StoreKind.normalize kind') :
    (spelt kind).environment.SameKinds (spelt kind').environment := by
  intro name _
  by_cases hname : name = "CELERITY_CONFIG_STORE_KIND" <;>
    simp [spelt, Surroundings.environment, hname, h]

/-- Parameters are read in both, through clients that are not made yet. -/
theorem spelt_indifferent :
    (spelt " Parameter-Store\n").environment.SameKinds (spelt "PARAMETER-STORE").environment ∧
      ∀ service, (Service.wiring (spelt " Parameter-Store\n")).value = .ok service →
        (Service.wiring (spelt "PARAMETER-STORE")).value = .ok service ∧
          service.namespaces.map Namespace.backend = [.parameters (.fresh none)] := by
  have halike := spelt_alike " Parameter-Store\n" "PARAMETER-STORE"
  have hsame := spelt_same " Parameter-Store\n" "PARAMETER-STORE" (by decide)
  have hvalue := (indifference halike (.refl _)).spelling hsame
  refine ⟨hsame, fun service hs => ⟨hvalue.symm.trans hs, ?_⟩⟩
  have hbuilt : (Service.wiring (spelt "PARAMETER-STORE")).value = .ok _ := rfl
  cases (hvalue.symm.trans hs).symm.trans hbuilt
  rfl

end LiveConfig
