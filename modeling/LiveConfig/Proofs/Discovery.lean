import LiveConfig.Settings
set_option autoImplicit false

/-!
Which namespaces an environment declares. Names are made from variables in lower case, so that two
variables may declare one name.
-/
namespace LiveConfig

namespace Environment

structure Declares (env : Environment) (own : String) : Prop where
  named : own ≠ "" ∧ own ≠ "STORE"
  filled : (env.filled? (Settings.bindingStart ++ own ++ Settings.storeIdEnd)).isSome = true

/-- There is no single store, and two variables declare a namespace of one name. -/
structure Clash (env : Environment) (name : String) : Prop where
  several : env.filled? Settings.storeIdVariable = none
  pair : ∃ a b, a ≠ b ∧ (env.Declares a ∧ Text.lower a = name) ∧
    env.Declares b ∧ Text.lower b = name

theorem filled?_eq_some_iff (env : Environment) (name value : String) :
    env.filled? name = some value ↔ env.get? name = some value ∧ value ≠ "" := by
  simp [filled?, Option.filter_eq_some_iff]

end Environment

theorem two_le_length_iff {α : Type} {l : List α} (h : l.Nodup) :
    2 ≤ l.length ↔ ∃ a b, a ≠ b ∧ a ∈ l ∧ b ∈ l := by
  constructor
  · intro hl
    match l, h, hl with
    | a :: b :: _, h, _ =>
      exact ⟨a, b, fun hab => (List.nodup_cons.1 h).1 (hab ▸ List.mem_cons_self), by simp, by simp⟩
  · rintro ⟨a, b, hab, ha, hb⟩
    match l, ha, hb with
    | [_], ha, hb =>
      exact absurd ((List.mem_singleton.1 ha).trans (List.mem_singleton.1 hb).symm) hab
    | _ :: _ :: _, _, _ => simp

namespace Text

theorem codes_lt {a b : String} (hle : a ≤ b) (hne : a ≠ b) :
    a.toList.map Char.toNat < b.toList.map Char.toNat := by
  have hlt : a < b := String.not_le.1 fun hge => hne (String.le_antisymm hle hge)
  exact List.map_lt (fun _ _ hc => hc) hlt

theorem codes_not_lt {a b : String} (h : a ≤ b) :
    ¬b.toList.map Char.toNat < a.toList.map Char.toNat := by
  by_cases hab : a = b
  · exact hab ▸ List.lt_irrefl _
  · exact List.lt_asymm (codes_lt h hab)

theorem lowerChar_ne_nil (before : List Char) (c : Char) (after : List Char) :
    lowerChar before c after ≠ [] := by
  rw [lowerChar]
  split
  · split <;> exact List.cons_ne_nil _ _
  · have hspecials : ∀ e ∈ lowerSpecials, e.2 ≠ [] := by decide
    rw [caseImage]
    split
    next image h =>
      obtain ⟨_, _, he, -⟩ := List.lookup_eq_some_iff.1 h
      have himage := hspecials (c.toNat, image) (he ▸ by simp)
      exact mt List.map_eq_nil_iff.1 himage
    next => exact List.cons_ne_nil _ _

/-- Lower case leaves nothing out. -/
theorem lower_ne_empty {text : String} (h : text ≠ "") : lower text ≠ "" := by
  intro hl
  have hchars : lowerChars text.toList = [] := by
    rw [← String.toList_ofList (l := lowerChars text.toList)]
    exact congrArg String.toList hl
  cases hcs : text.toList with
  | nil => exact h (String.toList_inj.1 hcs)
  | cons c rest =>
    rw [hcs, lowerChars, lowerAfter] at hchars
    exact lowerChar_ne_nil _ _ _ (List.append_eq_nil_iff.1 hchars).1

end Text

namespace Settings
variable (env : Environment)

theorem binding?_eq_some_iff (e : String × String) (b : Binding) :
    binding? env e = some b ↔ ∃ own, e.1 = bindingStart ++ own ++ storeIdEnd ∧
      (own ≠ "" ∧ own ≠ "STORE") ∧ e.2 ≠ "" ∧
      b = ⟨Text.lower own, e.2, env.get? (bindingStart ++ own ++ storeKindEnd)⟩ := by
  simp only [binding?, Option.bind_eq_bind, Option.bind_eq_some_iff, Text.dropStart?_eq_some,
    Text.dropEnd?_eq_some]
  constructor
  · rintro ⟨rest, hrest, own, rfl, h⟩
    split at h
    · cases h
    · next hn =>
      rw [not_or, not_or] at hn
      exact ⟨own, by rw [hrest, String.append_assoc], hn.2, hn.1, (Option.some.inj h).symm⟩
  · rintro ⟨own, hkey, hown, hvalue, rfl⟩
    refine ⟨own ++ storeIdEnd, by rw [hkey, String.append_assoc], own, rfl, ?_⟩
    rw [if_neg (by simp [hown, hvalue])]

theorem key_injective {a b : String}
    (h : bindingStart ++ a ++ storeIdEnd = bindingStart ++ b ++ storeIdEnd) : a = b := by
  have hl := congrArg String.toList h
  simp only [String.toList_append] at hl
  exact String.toList_inj.1 (List.append_cancel_left (List.append_cancel_right hl))

def declared? (e : String × String) : Option String := (binding? env e).map Binding.name

theorem declared?_eq_some_iff (e : String × String) (name : String) :
    declared? env e = some name ↔ ∃ own, e.1 = bindingStart ++ own ++ storeIdEnd ∧
      (own ≠ "" ∧ own ≠ "STORE") ∧ e.2 ≠ "" ∧ Text.lower own = name := by
  rw [declared?, Option.map_eq_some_iff]
  constructor
  · rintro ⟨b, hb, rfl⟩
    obtain ⟨own, hkey, hown, hvalue, rfl⟩ := (binding?_eq_some_iff env e b).1 hb
    exact ⟨own, hkey, hown, hvalue, rfl⟩
  · rintro ⟨own, hkey, hown, hvalue, rfl⟩
    exact ⟨_, (binding?_eq_some_iff env e _).2 ⟨own, hkey, hown, hvalue, rfl⟩, rfl⟩

theorem exists_entry_iff (name : String) (own : String) :
    (∃ e ∈ env.entries, e.1 = bindingStart ++ own ++ storeIdEnd ∧ (own ≠ "" ∧ own ≠ "STORE") ∧
        e.2 ≠ "" ∧ Text.lower own = name) ↔ env.Declares own ∧ Text.lower own = name := by
  constructor
  · rintro ⟨⟨key, value⟩, he, rfl, hown, hvalue, hname⟩
    refine ⟨⟨hown, ?_⟩, hname⟩
    rw [(env.filled?_eq_some_iff _ value).2 ⟨env.get?_of_mem he, hvalue⟩]
    rfl
  · rintro ⟨⟨hown, hfilled⟩, hname⟩
    obtain ⟨value, hv⟩ := Option.isSome_iff_exists.1 hfilled
    obtain ⟨hg, hvalue⟩ := (env.filled?_eq_some_iff _ value).1 hv
    exact ⟨(_, value), env.mem_of_get? hg, rfl, hown, hvalue, hname⟩

/-- A name is found twice among several stores when two variables declare it. -/
theorem two_le_count_discover {kind : Option String} (name : String) :
    2 ≤ ((discover env "" kind).map Binding.name).count name ↔
      ∃ a b, a ≠ b ∧ (env.Declares a ∧ Text.lower a = name) ∧
        env.Declares b ∧ Text.lower b = name := by
  have hperm : ((discover env "" kind).map Binding.name).Perm
      (env.entries.filterMap (declared? env)) := by
    rw [show env.entries.filterMap (declared? env) =
      (env.entries.filterMap (binding? env)).map Binding.name from List.map_filterMap.symm]
    exact (List.mergeSort_perm _ _).map _
  have hentries : (env.entries.filter fun e => declared? env e == some name).Nodup :=
    (List.Pairwise.of_map Prod.fst (fun _ _ => mt (congrArg Prod.fst)) env.distinct).filter _
  rw [hperm.count_eq, List.count_filterMap, List.countP_eq_length_filter,
    two_le_length_iff hentries]
  simp only [List.mem_filter, beq_iff_eq]
  -- Different entries have different keys, and so come from variables with different own names.
  constructor
  · rintro ⟨e, e', hne, ⟨he, hd⟩, he', hd'⟩
    obtain ⟨a, ha⟩ := (declared?_eq_some_iff env e name).1 hd
    obtain ⟨b, hb⟩ := (declared?_eq_some_iff env e' name).1 hd'
    refine ⟨a, b, ?_, (exists_entry_iff env name a).1 ⟨e, he, ha⟩,
      (exists_entry_iff env name b).1 ⟨e', he', hb⟩⟩
    rintro rfl
    have hkey : e.1 = e'.1 := ha.1.trans hb.1.symm
    have hvalue := env.get?_of_mem he
    rw [hkey, env.get?_of_mem he'] at hvalue
    exact hne (Prod.ext hkey (Option.some.inj hvalue).symm)
  · rintro ⟨a, b, hab, ha, hb⟩
    obtain ⟨e, he, hea⟩ := (exists_entry_iff env name a).2 ha
    obtain ⟨e', he', heb⟩ := (exists_entry_iff env name b).2 hb
    refine ⟨e, e', ?_, ⟨he, (declared?_eq_some_iff env e name).2 ⟨a, hea⟩⟩, he',
      (declared?_eq_some_iff env e' name).2 ⟨b, heb⟩⟩
    rintro rfl
    exact hab (key_injective (hea.1.symm.trans heb.1))

theorem ofEnvironment_bindings :
    (ofEnvironment env).value.bindings =
      discover env ((env.get? storeIdVariable).getD "") (env.get? storeKindVariable) := by
  cases h : env.get? intervalVariable <;> simp [ofEnvironment, h]

/-- No namespace is without a name. -/
theorem bindings_named : ∀ b ∈ (ofEnvironment env).value.bindings, b.name ≠ "" := by
  intro b hb
  rw [ofEnvironment_bindings, discover] at hb
  split at hb
  · rw [List.mem_singleton.1 hb]
    show defaultName ≠ ""
    decide
  · obtain ⟨e, -, he⟩ := List.mem_filterMap.1 (List.mem_mergeSort.1 hb)
    obtain ⟨own, -, hown, -, rfl⟩ := (binding?_eq_some_iff env e b).1 he
    exact Text.lower_ne_empty hown.1

theorem filled?_eq_none_iff (name : String) :
    env.filled? name = none ↔ (env.get? name).getD "" = "" := by
  rw [Environment.filled?]
  cases env.get? name <;> simp

/-- Two bindings get one name just when variables clash. -/
theorem two_le_count_bindings (name : String) :
    2 ≤ ((ofEnvironment env).value.bindings.map Binding.name).count name ↔ env.Clash name := by
  rw [ofEnvironment_bindings]
  by_cases hs : (env.get? storeIdVariable).getD "" = ""
  · rw [hs, two_le_count_discover]
    exact ⟨fun h => ⟨(filled?_eq_none_iff env _).2 hs, h⟩, fun h => h.pair⟩
  · rw [discover, if_pos hs]
    constructor
    · intro h
      have hl := List.count_le_length (a := name) (l := [defaultName])
      simp only [List.map_cons, List.map_nil] at h
      simp only [List.length_singleton] at hl
      omega
    · exact fun h => absurd ((filled?_eq_none_iff env _).1 h.several) hs

theorem nodup_bindings :
    ((ofEnvironment env).value.bindings.map Binding.name).Nodup ↔ ¬∃ name, env.Clash name := by
  rw [List.nodup_iff_count, not_exists]
  refine forall_congr' fun name => ?_
  rw [← two_le_count_bindings]
  omega

end Settings

end LiveConfig
