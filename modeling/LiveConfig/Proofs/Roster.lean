import Mathlib.Data.List.Nodup
import LiveConfig.Proofs.Discovery
import LiveConfig.Proofs.Registration
set_option autoImplicit false

/-!
The roster of the namespaces that an environment declares: each variable that declares one is on it
once, and nothing else is. It is sorted by name, and where names differ it does not matter in which
order the variables stand. A service is built from it as it is.
-/
namespace LiveConfig

namespace Environment

def storeVariable (own : String) : String := "CELERITY_CONFIG_" ++ own ++ "_STORE_ID"

def bindingOf (env : Environment) (own : String) : Binding where
  name := Text.lower own
  storeId := (env.get? (storeVariable own)).getD ""
  kind := env.get? ("CELERITY_CONFIG_" ++ own ++ "_STORE_KIND")

/-- Environments with the same variables give the same values, in whatever order they stand. -/
theorem get?_of_perm {env env' : Environment} (h : env'.entries.Perm env.entries) (name : String) :
    env'.get? name = env.get? name := by
  refine Option.ext fun value => ⟨fun hv => ?_, fun hv => ?_⟩
  · exact env.get?_of_mem (h.mem_iff.1 (env'.mem_of_get? hv))
  · exact env'.get?_of_mem (h.mem_iff.2 (env.mem_of_get? hv))

end Environment

namespace Binding

def before (a b : Binding) : Bool := decide (a.name ≤ b.name)

theorem before_trans (a b c : Binding) (hab : a.before b = true) (hbc : b.before c = true) :
    a.before c = true :=
  decide_eq_true (String.le_trans (of_decide_eq_true hab) (of_decide_eq_true hbc))

theorem before_total (a b : Binding) : (a.before b || b.before a) = true := by
  rcases String.le_total a.name b.name with h | h <;> simp [before, h]

theorem pairwise_before (bs : List Binding) :
    (bs.mergeSort before).Pairwise fun a b => a.before b = true :=
  List.pairwise_mergeSort before_trans before_total bs

/-- Bindings of one name keep their order. -/
theorem filter_mergeSort (bs : List Binding) (name : String) :
    (bs.mergeSort before).filter (·.name = name) = bs.filter (·.name = name) := by
  have hperm := (bs.mergeSort_perm before).filter (·.name = name)
  have hequal : (bs.filter (·.name = name)).Pairwise fun a b => a.before b = true := by
    refine List.pairwise_of_forall_mem_list fun a ha b hb => ?_
    have hab := (List.mem_filter.1 ha).2
    have hbb := (List.mem_filter.1 hb).2
    simp only [decide_eq_true_eq] at hab hbb
    exact decide_eq_true (hab.trans hbb.symm ▸ String.le_refl _)
  have hsub := (List.sublist_mergeSort before_trans before_total hequal
    List.filter_sublist).filter (·.name = name)
  rw [List.filter_filter] at hsub
  simp only [Bool.and_self] at hsub
  exact (hsub.eq_of_length hperm.length_eq.symm).symm

/-- Of differently named bindings there is one sorted list. -/
theorem mergeSort_of_perm {bs bs' : List Binding} (hperm : bs'.Perm bs)
    (hnodup : (bs.map name).Nodup) : bs'.mergeSort before = bs.mergeSort before := by
  refine List.Perm.eq_of_pairwise (fun a b ha hb hab hba => ?_) (pairwise_before bs')
    (pairwise_before bs) (((bs'.mergeSort_perm _).trans hperm).trans (bs.mergeSort_perm _).symm)
  have hname := String.le_antisymm (of_decide_eq_true hab) (of_decide_eq_true hba)
  exact List.inj_on_of_nodup_map hnodup (hperm.mem_iff.1 (List.mem_mergeSort.1 ha))
    (List.mem_mergeSort.1 hb) hname

end Binding

namespace Settings
variable (env : Environment)

def own? (e : String × String) : Option String :=
  ((Text.dropStart? bindingStart e.1).bind (Text.dropEnd? storeIdEnd)).filter fun own =>
    e.2 ≠ "" ∧ own ≠ "" ∧ own ≠ "STORE"

theorem own?_eq_some_iff (e : String × String) (own : String) :
    own? e = some own ↔ e.1 = Environment.storeVariable own ∧ (own ≠ "" ∧ own ≠ "STORE") ∧
      e.2 ≠ "" := by
  simp only [own?, Option.filter_eq_some_iff, Option.bind_eq_some_iff, Text.dropStart?_eq_some,
    Text.dropEnd?_eq_some, decide_eq_true_eq]
  constructor
  · rintro ⟨⟨rest, hrest, rfl⟩, hvalue, hown⟩
    exact ⟨by rw [hrest, ← String.append_assoc]; rfl, hown, hvalue⟩
  · rintro ⟨hkey, hown, hvalue⟩
    exact ⟨⟨own ++ storeIdEnd, by rw [hkey, ← String.append_assoc]; rfl, rfl⟩, hvalue, hown⟩

def owns : List String := env.entries.filterMap own?

theorem binding?_of_mem {e : String × String} (he : e ∈ env.entries) :
    binding? env e = (own? e).map env.bindingOf := by
  refine Option.ext fun b => ?_
  rw [binding?_eq_some_iff, Option.map_eq_some_iff]
  simp only [own?_eq_some_iff]
  have hvalue : ∀ own, e.1 = Environment.storeVariable own →
      env.get? (Environment.storeVariable own) = some e.2 := fun own hkey =>
    hkey ▸ env.get?_of_mem he
  constructor
  · rintro ⟨own, hkey, hown, hne, rfl⟩
    refine ⟨own, ⟨hkey, hown, hne⟩, ?_⟩
    rw [Environment.bindingOf, hvalue own hkey]
    rfl
  · rintro ⟨own, ⟨hkey, hown, hne⟩, rfl⟩
    refine ⟨own, hkey, hown, hne, ?_⟩
    rw [Environment.bindingOf, hvalue own hkey]
    rfl

theorem filterMap_binding? : env.entries.filterMap (binding? env) =
    (owns env).map env.bindingOf := by
  rw [owns, List.map_filterMap]
  exact List.filterMap_congr fun e he => binding?_of_mem env he

theorem mem_owns (own : String) : own ∈ owns env ↔ env.Declares own := by
  rw [owns, List.mem_filterMap]
  simp only [own?_eq_some_iff]
  constructor
  · rintro ⟨⟨key, value⟩, he, rfl, hown, hne⟩
    exact ⟨hown, Option.isSome_iff_exists.2
      ⟨value, (env.filled?_eq_some_iff _ value).2 ⟨env.get?_of_mem he, hne⟩⟩⟩
  · rintro ⟨hown, hfilled⟩
    obtain ⟨value, hv⟩ := Option.isSome_iff_exists.1 hfilled
    obtain ⟨hg, hne⟩ := (env.filled?_eq_some_iff _ value).1 hv
    exact ⟨(_, value), env.mem_of_get? hg, rfl, hown, hne⟩

theorem owns_sublist : ((owns env).map Environment.storeVariable).Sublist env.keys := by
  rw [owns, Table.keys]
  induction env.entries with
  | nil => exact List.Sublist.slnil
  | cons e es ih =>
    cases ho : own? e with
    | none =>
      rw [List.filterMap_cons_none ho]
      exact ih.cons e.1
    | some own =>
      rw [List.filterMap_cons_some ho, List.map_cons, List.map_cons,
        ← ((own?_eq_some_iff e own).1 ho).1]
      exact ih.cons_cons e.1

theorem owns_nodup : (owns env).Nodup :=
  List.Pairwise.of_map Environment.storeVariable (fun _ _ => mt (congrArg _))
    ((owns_sublist env).nodup env.distinct)

theorem bindings_of_single {id : String} (h : env.filled? storeIdVariable = some id) :
    (ofEnvironment env).value.bindings = [⟨defaultName, id, env.get? storeKindVariable⟩] := by
  obtain ⟨hg, hne⟩ := (env.filled?_eq_some_iff _ id).1 h
  rw [ofEnvironment_bindings, hg, discover, Option.getD_some, if_pos hne]

theorem bindings_of_several (h : env.filled? storeIdVariable = none) :
    (ofEnvironment env).value.bindings =
      ((owns env).map env.bindingOf).mergeSort Binding.before := by
  rw [ofEnvironment_bindings, (filled?_eq_none_iff env _).1 h, discover, if_neg (by simp),
    filterMap_binding?]
  rfl

variable {env}

theorem bindings_of_perm {env' : Environment} (h : env'.entries.Perm env.entries)
    (hnodup : ((ofEnvironment env).value.bindings.map Binding.name).Nodup) :
    (ofEnvironment env').value.bindings = (ofEnvironment env).value.bindings := by
  have hget := Environment.get?_of_perm h
  have hfilled : env'.filled? storeIdVariable = env.filled? storeIdVariable := by
    rw [Environment.filled?, Environment.filled?, hget]
  cases hs : env.filled? storeIdVariable with
  | some id => rw [bindings_of_single env hs, bindings_of_single env' (hfilled.trans hs), hget]
  | none =>
    rw [bindings_of_several env hs] at hnodup ⊢
    have hof : env'.bindingOf = env.bindingOf := by
      funext own
      simp only [Environment.bindingOf, hget]
    rw [bindings_of_several env' (hfilled.trans hs), hof]
    refine Binding.mergeSort_of_perm ((h.filterMap own?).map _) ?_
    exact (((List.mergeSort_perm _ _).map Binding.name).nodup_iff).1 hnodup

end Settings

/-- What an environment declares, and the service that is built from it. A single store wins.
Otherwise each variable that declares a namespace does so once, in whatever order the variables
stand, and nothing else does; the bindings ascend by the code points of their names, and those of
one name stand as their variables do. If no two have one name, they are the same in any order of the
variables, and the service has just their namespaces, with one interval for all. -/
structure Roster (s : Surroundings) (settings : Settings) : Prop where
  single : ∀ id, s.environment.filled? "CELERITY_CONFIG_STORE_ID" = some id →
    settings.bindings =
      [⟨"default", id, s.environment.get? "CELERITY_CONFIG_STORE_KIND"⟩]
  several : s.environment.filled? "CELERITY_CONFIG_STORE_ID" = none → ∃ owns : List String,
    (∀ own, own ∈ owns ↔ s.environment.Declares own) ∧ owns.Nodup ∧
    (owns.map Environment.storeVariable).Sublist s.environment.keys ∧
    settings.bindings.Perm (owns.map s.environment.bindingOf) ∧
    (settings.bindings.Pairwise fun a b =>
      ¬b.name.toList.map Char.toNat < a.name.toList.map Char.toNat) ∧
    ∀ name, settings.bindings.filter (·.name = name) =
      (owns.map s.environment.bindingOf).filter (·.name = name)
  unordered : (settings.bindings.map Binding.name).Nodup → ∀ env : Environment,
    env.entries.Perm s.environment.entries →
      (Settings.ofEnvironment env).value.bindings = settings.bindings
  built : (settings.bindings.map Binding.name).Nodup → ∃ service,
    (Service.build s settings).value = .ok service ∧
    service.names.entries = (settings.bindings.map Binding.name).zipIdx ∧
    service.namespaces.map (fun n => (n.name, n.storeId, n.interval)) =
      settings.bindings.map fun b => (b.name, b.storeId, settings.interval)

theorem roster (s : Surroundings) :
    Roster s (Settings.ofEnvironment s.environment).value where
  single id h := Settings.bindings_of_single _ h
  several h := by
    refine ⟨Settings.owns s.environment, Settings.mem_owns _, Settings.owns_nodup _,
      Settings.owns_sublist _, ?_⟩
    rw [Settings.bindings_of_several _ h]
    refine ⟨List.mergeSort_perm _ _, ?_, Binding.filter_mergeSort _⟩
    exact (Binding.pairwise_before _).imp fun h => Text.codes_not_lt (of_decide_eq_true h)
  unordered hnodup env h := Settings.bindings_of_perm h hnodup
  built hnodup := by
    obtain ⟨-, service, hb, hholds⟩ | ⟨name, hcount, -⟩ :=
      Service.build_cases s (Settings.ofEnvironment s.environment).value
    · refine ⟨service, hb, ?_, ?_⟩
      · rw [hholds.names, List.map_map]
        rfl
      · rw [hholds.namespaces, List.map_map, List.map_map]
        refine List.map_congr_left fun b hb => ?_
        have hname := Settings.bindings_named s.environment b hb
        simp [Service.spaceOf, Namespace.fresh, Option.filter, hname]
    · exact absurd (List.nodup_iff_count.1 hnodup name) (by omega)

end LiveConfig
