set_option autoImplicit false

/-!
Tables: each key once, in the order of first insertion. A key that is written again keeps its
place and takes the new value.
-/
namespace LiveConfig

variable {κ α β : Type} [DecidableEq κ]

/-- Writes a key in place, or at the end when it is new. -/
def assign (k : κ) (v : α) : List (κ × α) → List (κ × α)
  | [] => [(k, v)]
  | (j, w) :: rest => if j = k then (k, v) :: rest else (j, w) :: assign k v rest

theorem lookup_assign (k j : κ) (v : α) (l : List (κ × α)) :
    (assign k v l).lookup j = if j = k then some v else l.lookup j := by
  induction l with
  | nil =>
    by_cases h : j = k
    · simp [assign, h]
    · simp [assign, List.lookup_cons, beq_eq_false_iff_ne.2 h, h]
  | cons p l ih =>
    obtain ⟨i, w⟩ := p
    by_cases hi : i = k
    · subst hi
      by_cases h : j = i
      · simp [assign, h]
      · simp [assign, List.lookup_cons, beq_eq_false_iff_ne.2 h, h]
    · by_cases h : j = i
      · subst h; simp [assign, hi]
      · simp [assign, hi, List.lookup_cons, beq_eq_false_iff_ne.2 h, ih]

theorem keys_assign (k : κ) (v : α) (l : List (κ × α)) :
    (assign k v l).map Prod.fst =
      if k ∈ l.map Prod.fst then l.map Prod.fst else l.map Prod.fst ++ [k] := by
  induction l with
  | nil => simp [assign]
  | cons p l ih =>
    obtain ⟨i, w⟩ := p
    by_cases hi : i = k
    · subst hi; simp [assign]
    · have hk : k ≠ i := fun h => hi h.symm
      rw [assign, if_neg hi, List.map_cons, ih, List.map_cons]
      by_cases h : k ∈ l.map Prod.fst
      · rw [if_pos h, if_pos (List.mem_cons_of_mem _ h)]
      · have hn : k ∉ i :: l.map Prod.fst := by
          simp only [List.mem_cons, not_or]
          exact ⟨hk, h⟩
        rw [if_neg h, if_neg hn, List.cons_append]

theorem assign_of_notMem {k : κ} {l : List (κ × α)} (h : k ∉ l.map Prod.fst) (v : α) :
    assign k v l = l ++ [(k, v)] := by
  induction l with
  | nil => rfl
  | cons p l ih =>
    rw [List.map_cons, List.mem_cons, not_or] at h
    rw [assign, if_neg (Ne.symm h.1), ih h.2, List.cons_append]

theorem assign_of_lookup {k : κ} {v : α} {l : List (κ × α)} (h : l.lookup k = some v) :
    assign k v l = l := by
  induction l with
  | nil => cases h
  | cons p l ih =>
    obtain ⟨j, w⟩ := p
    by_cases hj : j = k
    · subst hj
      rw [List.lookup_cons_self] at h
      cases h
      exact if_pos rfl
    · rw [List.lookup_cons, beq_eq_false_iff_ne.2 (Ne.symm hj)] at h
      rw [assign, if_neg hj, ih h]

theorem nodup_assign {k : κ} {v : α} {l : List (κ × α)} (h : (l.map Prod.fst).Nodup) :
    ((assign k v l).map Prod.fst).Nodup := by
  rw [keys_assign]
  split
  · exact h
  · next hk =>
    exact List.nodup_append.2 ⟨h, by simp, by
      intro a ha b hb
      simp only [List.mem_singleton] at hb
      subst hb
      exact fun e => hk (e ▸ ha)⟩

structure Table (κ α : Type) where
  entries : List (κ × α)
  distinct : (entries.map Prod.fst).Nodup
  deriving DecidableEq, Repr

namespace Table

def empty : Table κ α := ⟨[], by simp⟩

instance : Inhabited (Table κ α) := ⟨⟨[], by simp⟩⟩

def get? (t : Table κ α) (k : κ) : Option α := t.entries.lookup k

def insert (t : Table κ α) (k : κ) (v : α) : Table κ α :=
  ⟨assign k v t.entries, nodup_assign t.distinct⟩

def erase (t : Table κ α) (k : κ) : Table κ α :=
  ⟨t.entries.filter (fun e => e.1 ≠ k), t.distinct.sublist (List.Sublist.map _ List.filter_sublist)⟩

/-- A later value of a key replaces an earlier one at the earlier place. -/
def ofList (l : List (κ × α)) : Table κ α := l.foldl (fun t e => t.insert e.1 e.2) empty

def keys (t : Table κ α) : List κ := t.entries.map Prod.fst

def values (t : Table κ α) : List α := t.entries.map Prod.snd

def contains (t : Table κ α) (k : κ) : Bool := (t.get? k).isSome

def size (t : Table κ α) : Nat := t.entries.length

@[simp] theorem get?_empty (k : κ) : (empty : Table κ α).get? k = none := rfl

@[simp] theorem get?_insert (t : Table κ α) (k j : κ) (v : α) :
    (t.insert k v).get? j = if j = k then some v else t.get? j := lookup_assign k j v t.entries

@[simp] theorem get?_erase (t : Table κ α) (k j : κ) :
    (t.erase k).get? j = if j = k then none else t.get? j := by
  simp only [get?, erase]
  induction t.entries with
  | nil => simp
  | cons e l ih =>
    obtain ⟨i, v⟩ := e
    by_cases hi : i = k
    · subst hi
      by_cases hj : j = i
      · simpa [hj] using ih
      · simpa [hj, List.lookup_cons, beq_eq_false_iff_ne.2 hj] using ih
    · by_cases hj : j = i
      · simp [hi, hj]
      · simpa [hi, hj, List.lookup_cons, beq_eq_false_iff_ne.2 hj] using ih

theorem contains_eq_true_iff (t : Table κ α) (k : κ) : t.contains k = true ↔ k ∈ t.keys := by
  simp only [contains, get?, keys, List.lookup_isSome_iff, List.mem_map, beq_iff_eq]
  constructor
  · rintro ⟨e, he, rfl⟩
    exact ⟨e, he, rfl⟩
  · rintro ⟨e, he, rfl⟩
    exact ⟨e, he, rfl⟩

theorem get?_of_mem (t : Table κ α) {k : κ} {v : α} (h : (k, v) ∈ t.entries) :
    t.get? k = some v := by
  have hd := t.distinct
  rw [get?]
  generalize t.entries = l at h hd
  induction l with
  | nil => cases h
  | cons e l ih =>
    rw [List.map_cons, List.nodup_cons] at hd
    rcases List.mem_cons.1 h with rfl | h
    · simp
    · have hk : k ≠ e.1 := fun hk => hd.1 (hk ▸ List.mem_map_of_mem h)
      rw [List.lookup_cons, beq_eq_false_iff_ne.2 hk]
      exact ih h hd.2

theorem mem_of_get? (t : Table κ α) {k : κ} {v : α} (h : t.get? k = some v) :
    (k, v) ∈ t.entries := by
  obtain ⟨l, l', he, -⟩ := List.lookup_eq_some_iff.1 h
  rw [he]
  simp

omit [DecidableEq κ] in
theorem length_keys (t : Table κ α) : t.keys.length = t.size := List.length_map _

theorem keys_insert (t : Table κ α) (k : κ) (v : α) :
    (t.insert k v).keys = if k ∈ t.keys then t.keys else t.keys ++ [k] := keys_assign k v t.entries

theorem entries_insert {t : Table κ α} {k : κ} (h : k ∉ t.keys) (v : α) :
    (t.insert k v).entries = t.entries ++ [(k, v)] := assign_of_notMem h v

theorem insert_of_get? {t : Table κ α} {k : κ} {v : α} (h : t.get? k = some v) :
    t.insert k v = t := by
  obtain ⟨entries, distinct⟩ := t
  exact mk.injEq .. ▸ assign_of_lookup h

theorem entries_foldl_insert {l : List (κ × α)} {t : Table κ α}
    (h : ((t.entries ++ l).map Prod.fst).Nodup) :
    (l.foldl (fun t e => t.insert e.1 e.2) t).entries = t.entries ++ l := by
  induction l generalizing t with
  | nil => exact (List.append_nil _).symm
  | cons e l ih =>
    have hnew : e.1 ∉ t.keys := by
      rw [List.map_append] at h
      exact fun hk => (List.nodup_append.1 h).2.2 _ hk _ List.mem_cons_self rfl
    have hi := entries_insert hnew e.2
    have hl : t.entries ++ e :: l = (t.insert e.1 e.2).entries ++ l := by
      rw [hi, List.append_assoc, List.singleton_append]
    rw [List.foldl_cons, ih (hl ▸ h), hl]

/-- A list in which no key occurs twice is kept as it is. -/
theorem entries_ofList {l : List (κ × α)} (h : (l.map Prod.fst).Nodup) : (ofList l).entries = l :=
  entries_foldl_insert h

theorem get?_foldl_insert (l : List (κ × α)) (t : Table κ α) (k : κ) :
    (l.foldl (fun t e => t.insert e.1 e.2) t).get? k = (l.reverse.lookup k).or (t.get? k) := by
  induction l generalizing t with
  | nil => simp
  | cons e l ih =>
    obtain ⟨j, v⟩ := e
    rw [List.foldl_cons, ih, List.reverse_cons, List.lookup_append, get?_insert]
    by_cases h : k = j
    · simp [h]
    · simp [h, List.lookup_cons, beq_eq_false_iff_ne.2 h]

/-- Of the values that are written for a key, the last one stays. -/
theorem get?_ofList (l : List (κ × α)) (k : κ) : (ofList l).get? k = l.reverse.lookup k := by
  simp [ofList, get?_foldl_insert]

theorem keys_foldl_insert (l : List (κ × α)) (t : Table κ α) :
    (l.foldl (fun t e => t.insert e.1 e.2) t).keys =
      t.keys ++ ((l.map Prod.fst).filter (· ∉ t.keys)).eraseDups := by
  induction l generalizing t with
  | nil => simp
  | cons e l ih =>
    rw [List.foldl_cons, ih, keys_insert, List.map_cons]
    by_cases h : e.1 ∈ t.keys
    · simp [h]
    · simp [h, List.eraseDups_cons, List.filter_filter, and_comm,
        Bool.beq_eq_decide_eq]

/-- Keys stand in the order in which they were written first. -/
theorem keys_ofList (l : List (κ × α)) : (ofList l).keys = (l.map Prod.fst).eraseDups := by
  have hnew : (l.map Prod.fst).filter (· ∉ (empty : Table κ α).keys) = l.map Prod.fst :=
    List.filter_eq_self.2 fun k _ => decide_eq_true List.not_mem_nil
  rw [ofList, keys_foldl_insert, hnew]
  rfl

end Table

end LiveConfig
