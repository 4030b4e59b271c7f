import Mathlib.Data.List.Nodup
import LiveConfig.Resource
set_option autoImplicit false

/-!
What a resource is resolved from. Taking a beginning off the names of the variables twice is taking
both off at once, so that every property is one variable and every variable of the resource is one
property. All other variables are without influence, but for the one that names the platform.
-/
namespace LiveConfig

namespace Table
variable {α : Type}

def strip? (start : String) (e : String × α) : Option (String × α) :=
  (Text.dropStart? start e.1).map (·, e.2)

def under (t : Table String α) (start : String) : Table String α :=
  .ofList (t.entries.filterMap (strip? start))

theorem strip?_eq_some_iff (start : String) (e e' : String × α) :
    strip? start e = some e' ↔ e = (start ++ e'.1, e'.2) := by
  obtain ⟨name, v⟩ := e
  obtain ⟨key, v'⟩ := e'
  simp only [strip?, Option.map_eq_some_iff, Text.dropStart?_eq_some, Prod.mk.injEq]
  constructor
  · rintro ⟨_, rfl, rfl, rfl⟩
    exact ⟨rfl, rfl⟩
  · rintro ⟨rfl, rfl⟩
    exact ⟨key, rfl, rfl, rfl⟩

theorem strip?_append (a b : String) (e : String × α) :
    (strip? a e).bind (strip? b) = strip? (a ++ b) e := by
  refine Option.ext fun e' => ?_
  simp only [Option.bind_eq_some_iff, strip?_eq_some_iff, String.append_assoc]
  constructor
  · rintro ⟨_, rfl, rfl⟩
    rfl
  · rintro rfl
    exact ⟨_, rfl, rfl⟩

theorem entries_under (t : Table String α) (start : String) :
    (t.under start).entries = t.entries.filterMap (strip? start) := by
  refine entries_ofList ?_
  have hd := t.distinct
  rw [List.Nodup, List.pairwise_map] at hd ⊢
  refine hd.filterMap (strip? start) fun e e' hne f hf f' hf' => ?_
  rw [strip?_eq_some_iff] at hf hf'
  subst hf hf'
  simpa using hne

theorem ext_entries {t t' : Table String α} (h : t.entries = t'.entries) : t = t' := by
  cases t
  cases t'
  simpa using h

theorem get?_under (t : Table String α) (start key : String) :
    (t.under start).get? key = t.get? (start ++ key) := by
  refine Option.ext fun v => ⟨fun h => t.get?_of_mem ?_, fun h => get?_of_mem _ ?_⟩
  · have hm := mem_of_get? _ h
    rw [entries_under, List.mem_filterMap] at hm
    obtain ⟨e, he, hs⟩ := hm
    rwa [(strip?_eq_some_iff _ _ _).1 hs] at he
  · rw [entries_under, List.mem_filterMap]
    exact ⟨_, t.mem_of_get? h, (strip?_eq_some_iff _ _ _).2 rfl⟩

theorem under_under (t : Table String α) (a b : String) :
    (t.under a).under b = t.under (a ++ b) := by
  apply ext_entries
  simp only [entries_under, List.filterMap_filterMap, strip?_append]

section Elsewhere
variable {start name : String} (h : ∀ key, name ≠ start ++ key)
include h

theorem strip?_eq_none (v : α) : strip? start (name, v) = none := by
  refine Option.eq_none_iff_forall_ne_some.2 fun e he => ?_
  rw [strip?_eq_some_iff] at he
  exact h e.1 (congrArg Prod.fst he)

theorem under_insert (t : Table String α) (v : α) :
    (t.insert name v).under start = t.under start := by
  apply ext_entries
  simp only [entries_under, insert]
  induction t.entries with
  | nil => simp [assign, strip?_eq_none h]
  | cons e es ih =>
    obtain ⟨k, w⟩ := e
    by_cases hk : k = name
    · subst hk
      simp [assign, strip?_eq_none h]
    · simp only [assign, if_neg hk, List.filterMap_cons, ih]

theorem under_erase (t : Table String α) : (t.erase name).under start = t.under start := by
  apply ext_entries
  rw [entries_under, entries_under, erase, List.filterMap_filter]
  refine List.filterMap_congr fun e _ => ?_
  by_cases he : e.1 = name
  · subst he
    simp [strip?_eq_none h]
  · simp [he]

end Elsewhere

end Table

namespace Text

/-- Each character has its capitals for itself, whatever stands around it. -/
theorem upper_append (a b : String) : upper (a ++ b) = upper a ++ upper b := by
  simp [upper, upperChars, String.ofList_append]

end Text

namespace Platform

theorem token_of_ofToken? {token : String} {p : Platform} (h : ofToken? token = some p) :
    p.token = token := by
  simpa using List.find?_some h

theorem ne_token_of_ofToken? {token : String} (h : ofToken? token = none) (p : Platform) :
    token ≠ p.token := by
  rintro rfl
  simp [ofToken?_token] at h

end Platform

namespace Scope

def recognized (s : Scope) : Option String :=
  ((s.environment.get? (s.outer ++ "_PLATFORM")).map Text.lower).filter
    (· ∈ ["aws", "gcp", "azure", "local"])

theorem inferredProvider_eq (s : Scope) :
    Resource.inferredProvider s = s.recognized.getD "unknown" := by
  simp only [Resource.inferredProvider, platform, recognized]
  cases s.environment.get? (s.outer ++ "_PLATFORM") with
  | none => rfl
  | some raw =>
    dsimp only [Option.map_some]
    generalize Text.lower raw = token
    cases hp : Platform.ofToken? token with
    | some p =>
      obtain rfl := Platform.token_of_ofToken? hp
      cases p <;> rfl
    | none =>
      have hn := Platform.ne_token_of_ofToken? hp
      have hfilter : (some token).filter (· ∈ ["aws", "gcp", "azure", "local"]) = none := by
        simpa [Option.filter_eq_none_iff] using
          ⟨hn .aws, hn .gcp, hn .azure, hn .workstation⟩
      rw [hfilter]
      rfl

end Scope

namespace Resource

section Read
variable (r : Resource) (s : Scope)

/-- The variables that a resource is told by: the platform's, and those that begin with its type and
name in capitals. -/
def Reads (name : String) : Prop :=
  name = s.outer ++ "_PLATFORM" ∨ ∃ key, name = s.outer ++ "_APP_" ++ r.start ++ key

theorem description_eq : r.description s = s.environment.under (s.appStart ++ r.start) :=
  s.environment.under_under s.appStart r.start

theorem get?_description (key : String) :
    (r.description s).get? key = s.environment.get? (s.outer ++ "_APP_" ++ r.start ++ key) := by
  rw [description_eq, Table.get?_under, Scope.appStart]

theorem get?_properties (key : String) : (r.resolve s).properties.get? key =
    if key = "PROVIDER" then none
    else s.environment.get? (s.outer ++ "_APP_" ++ r.start ++ key) := by
  simp [resolve, get?_description, providerKey]

theorem provider_eq : (r.resolve s).provider =
    (s.environment.get? (s.outer ++ "_APP_" ++ r.start ++ "PROVIDER")).getD
      (s.recognized.getD "unknown") := by
  simp [resolve, get?_description, providerKey, Scope.inferredProvider_eq]

variable {r s} in
/-- Only the description of a resource and the platform count. -/
theorem resolve_congr {env : Environment}
    (hd : env.under (s.appStart ++ r.start) = s.environment.under (s.appStart ++ r.start))
    (hp : env.get? (s.outer ++ "_PLATFORM") = s.environment.get? (s.outer ++ "_PLATFORM")) :
    r.resolve ⟨s.outer, env⟩ = r.resolve s := by
  have hdescription : r.description ⟨s.outer, env⟩ = r.description s := by
    rw [description_eq, description_eq]
    exact hd
  have hinferred : inferredProvider ⟨s.outer, env⟩ = inferredProvider s := by
    simp only [Scope.inferredProvider_eq, Scope.recognized, hp]
  simp only [resolve, hdescription, hinferred]

theorem not_reads {name : String} (h : ¬r.Reads s name) :
    (∀ key, name ≠ s.appStart ++ r.start ++ key) ∧ s.outer ++ "_PLATFORM" ≠ name :=
  ⟨fun key hk => h (.inr ⟨key, hk⟩), fun hp => h (.inl hp.symm)⟩

theorem not_reads_secret (key : String) : ¬r.Reads s (s.outer ++ "_SECRET_" ++ key) := by
  simp [Reads, ← String.toList_inj]

theorem not_reads_injected (key : String) : ¬r.Reads s (s.outer ++ "_VARIABLE_" ++ key) := by
  simp [Reads, ← String.toList_inj]

end Read

theorem start_unnamed (type : String) :
    (Resource.mk type none).start = Text.upper type ++ "_" := rfl

theorem start_named (type : String) {name : String} (h : name ≠ "") :
    (Resource.mk type (some name)).start = Text.upper type ++ "_" ++ Text.upper name ++ "_" := by
  simp [start, Option.filter, h]

theorem start_joined (type : String) {name : String} (h : name ≠ "") :
    (Resource.mk (type ++ "_" ++ name) none).start = (Resource.mk type (some name)).start := by
  have hmark : Text.upper "_" = "_" := by decide
  simp [start_unnamed, start_named type h, Text.upper_append, hmark]

theorem joined_ne_provider (a b : String) : a ++ "_" ++ b ≠ "PROVIDER" := by
  intro h
  have hm : '_' ∈ (a ++ "_" ++ b).toList := by simp
  rw [h] at hm
  revert hm
  decide

/-- What the name of a resource picks out is among what the type alone tells. -/
theorem get?_properties_named (type : String) {name : String} (h : name ≠ "") (s : Scope)
    (key : String) : ((Resource.mk type none).resolve s).properties.get?
      (Text.upper name ++ "_" ++ key) = s.environment.get?
        (s.outer ++ "_APP_" ++ (Resource.mk type (some name)).start ++ key) := by
  rw [get?_properties, if_neg (joined_ne_provider _ _), start_unnamed, start_named type h]
  simp only [String.append_assoc]

theorem resolve_joined (type : String) {name : String} (h : name ≠ "") (s : Scope) :
    (Resource.mk (type ++ "_" ++ name) none).resolve s =
      (Resource.mk type (some name)).resolve s := by
  simp only [resolve, description_eq, start_joined type h]

/-- What resolving a resource comes to. The properties are just the variables that begin with its
type and name, but for the provider, which a variable of its own tells, else the platform. Any other
variable may change, come or go. A name picks out a part of what the type alone is resolved to, and
is as good as a longer type. -/
structure Resolved (r : Resource) (s : Scope) : Prop where
  unnamed : r.name = none ∨ r.name = some "" → r.start = Text.upper r.type ++ "_"
  named : ∀ name, r.name = some name → name ≠ "" →
    r.start = Text.upper r.type ++ "_" ++ Text.upper name ++ "_"
  properties : ∀ key value, (r.resolve s).properties.get? key = some value ↔
    s.environment.get? (s.outer ++ "_APP_" ++ r.start ++ key) = some value ∧ key ≠ "PROVIDER"
  provider : (r.resolve s).provider =
    (s.environment.get? (s.outer ++ "_APP_" ++ r.start ++ "PROVIDER")).getD
      (s.recognized.getD "unknown")
  elsewhere : ∀ env : Environment,
    (∀ name, r.Reads s name → env.get? name = s.environment.get? name) →
    (r.resolve ⟨s.outer, env⟩).provider = (r.resolve s).provider ∧
    ∀ key, (r.resolve ⟨s.outer, env⟩).properties.get? key = (r.resolve s).properties.get? key
  written : ∀ name value, ¬r.Reads s name →
    r.resolve ⟨s.outer, s.environment.insert name value⟩ = r.resolve s
  removed : ∀ name, ¬r.Reads s name → r.resolve ⟨s.outer, s.environment.erase name⟩ = r.resolve s
  unread : ∀ key, ¬r.Reads s (s.outer ++ "_SECRET_" ++ key) ∧
    ¬r.Reads s (s.outer ++ "_VARIABLE_" ++ key)
  part : ∀ name, r.name = some name → name ≠ "" →
    (∀ key, key ≠ "PROVIDER" → (r.resolve s).properties.get? key =
      ((Resource.mk r.type none).resolve s).properties.get? (Text.upper name ++ "_" ++ key)) ∧
    s.environment.get? (s.outer ++ "_APP_" ++ r.start ++ "PROVIDER") =
      ((Resource.mk r.type none).resolve s).properties.get? (Text.upper name ++ "_PROVIDER") ∧
    r.resolve s = (Resource.mk (r.type ++ "_" ++ name) none).resolve s

theorem resolution (r : Resource) (s : Scope) : r.Resolved s where
  unnamed h := by
    obtain ⟨type, name⟩ := r
    rcases h with rfl | rfl <;> rfl
  named name h hne := by
    obtain ⟨type, n⟩ := r
    obtain rfl : n = some name := h
    exact start_named type hne
  properties key value := by
    rw [get?_properties]
    by_cases hk : key = "PROVIDER" <;> simp [hk]
  provider := r.provider_eq s
  elsewhere env h := by
    have hplatform := h _ (.inl rfl)
    have hvariable := fun key => h _ (.inr ⟨key, rfl⟩)
    refine ⟨?_, fun key => ?_⟩
    · simp only [provider_eq, Scope.recognized, hplatform, hvariable]
    · simp only [get?_properties, hvariable]
  written name value h := by
    obtain ⟨hstart, hplatform⟩ := r.not_reads s h
    refine resolve_congr (Table.under_insert hstart _ value) ?_
    rw [Table.get?_insert, if_neg hplatform]
  removed name h := by
    obtain ⟨hstart, hplatform⟩ := r.not_reads s h
    refine resolve_congr (Table.under_erase hstart _) ?_
    rw [Table.get?_erase, if_neg hplatform]
  unread key := ⟨r.not_reads_secret s key, r.not_reads_injected s key⟩
  part name h hne := by
    obtain ⟨type, n⟩ := r
    obtain rfl : n = some name := h
    refine ⟨fun key hk => ?_, ?_, (resolve_joined type hne s).symm⟩
    · rw [get?_properties_named type hne, get?_properties, if_neg hk]
    · have hname : Text.upper name ++ "_PROVIDER" = Text.upper name ++ "_" ++ "PROVIDER" := by
        rw [String.append_assoc]
        rfl
      rw [hname, get?_properties_named type hne]

end Resource

end LiveConfig
