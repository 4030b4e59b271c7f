import Mathlib.Data.List.Nodup
import Mathlib.Data.List.Perm.Basic
import LiveConfig.Container
set_option autoImplicit false

/-!
Closing a container. Values are closed one after the other up to the first that fails, beginning
with the one whose token was new last. When none fails the container is empty afterwards; else it
stays as it was, and the next attempt goes the same way.
-/
namespace LiveConfig

namespace Item

def closing? : Item → Option (List String × Except Fault Unit)
  | .closable c => c.way?.map fun w => Closable.run c.id w.1 w.2
  | .plain _ | .service _ => none

def closes (i : Item) : Bool := i.closing?.isSome

def marks (i : Item) : List String := (i.closing?.map Prod.fst).getD []

def fault? (i : Item) : Option Fault :=
  match i.closing? with
  | some (_, .error f) => some f
  | some (_, .ok ()) | none => none

theorem closing?_of_sound {i : Item} (h : i.fault? = none) :
    i.closing? = none ∨ i.closing? = some (i.marks, .ok ()) := by
  cases hc : i.closing? with
  | none => exact .inl rfl
  | some r =>
    obtain ⟨marks, outcome⟩ := r
    cases outcome with
    | error f => simp [fault?, hc] at h
    | ok u => exact .inr (by simp [Item.marks, hc])

theorem closing?_of_fault {i : Item} {f : Fault} (h : i.fault? = some f) :
    i.closing? = some (i.marks, .error f) := by
  cases hc : i.closing? with
  | none => simp [fault?, hc] at h
  | some r =>
    obtain ⟨marks, outcome⟩ := r
    cases outcome with
    | ok u => simp [fault?, hc] at h
    | error g => simpa [fault?, Item.marks, hc] using h

end Item

structure Closable.Persists (c c' : Closable) : Prop where
  id : c'.id = c.id
  aclose : c'.aclose.isSome = c.aclose.isSome
  close : c'.close.isSome = c.close.isSome

namespace Item

def later (f : Closable → Closable) : Item → Item
  | .closable c => .closable (f c)
  | .plain value => .plain value
  | .service number => .service number

theorem closes_closable (c : Closable) :
    (Item.closable c).closes = (c.aclose.isSome || c.close.isSome) := by
  cases ha : c.aclose <;> simp [closes, closing?, Closable.way?, ha]

theorem closes_later {f : Closable → Closable} (hf : ∀ c, Closable.Persists c (f c)) (i : Item) :
    (i.later f).closes = i.closes := by
  cases i with
  | closable c => rw [later, closes_closable, closes_closable, (hf c).aclose, (hf c).close]
  | _ => rfl

end Item

namespace Container

def notices (es : List (String × Item)) : List Entry :=
  (es.filter fun e => e.2.closes).map fun e => .said (.closing e.1)

def marks (es : List (String × Item)) : List String := es.flatMap fun e => e.2.marks

@[simp] theorem notices_append (es es' : List (String × Item)) :
    notices (es ++ es') = notices es ++ notices es' := by simp [notices]

theorem mem_notices {es : List (String × Item)} {token : String} :
    .said (.closing token) ∈ notices es ↔ ∃ e ∈ es, e.2.closes ∧ e.1 = token := by
  simp [notices, and_assoc]

/-- When tokens are distinct, each value is closed at most once. -/
theorem nodup_notices {es : List (String × Item)} (h : (es.map Prod.fst).Nodup) :
    (notices es).Nodup := by
  have hsub : ((es.filter fun e => e.2.closes).map Prod.fst).Nodup :=
    h.sublist (List.filter_sublist.map Prod.fst)
  rw [notices, ← Function.comp_def (fun token => Entry.said (.closing token)) Prod.fst,
    ← List.map_map]
  exact hsub.map fun _ _ he => by simpa using he

theorem count_notices {es : List (String × Item)} (h : (es.map Prod.fst).Nodup)
    {e : String × Item} (he : e ∈ es) (hc : e.2.closes) :
    (notices es).count (.said (.closing e.1)) = 1 :=
  List.count_eq_one_of_mem (nodup_notices h) (mem_notices.2 ⟨e, he, hc, rfl⟩)

section Each
variable {token : String} {i : Item} (rest : List (String × Item))

theorem closeEach_open (h : i.closing? = none) :
    closeEach ((token, i) :: rest) = closeEach rest := by
  cases i with
  | closable c =>
    rw [Item.closing?, Option.map_eq_none_iff] at h
    rw [closeEach, h]
  | _ => rfl

theorem closeEach_closing {left : List String} {outcome : Except Fault Unit}
    (h : i.closing? = some (left, outcome)) : closeEach ((token, i) :: rest) =
      match outcome with
      | .error f => ⟨(left, .error f), [.said (.closing token)]⟩
      | .ok () => ⟨(left ++ (closeEach rest).value.1, (closeEach rest).value.2),
          .said (.closing token) :: (closeEach rest).entries⟩ := by
  cases i with
  | closable c =>
    rw [Item.closing?, Option.map_eq_some_iff] at h
    obtain ⟨⟨way, manner⟩, hw, hr⟩ := h
    rw [closeEach, hw]
    simp only [hr]
    cases outcome <;> simp [Journaled.say, bind, pure]
  | _ => cases h

end Each

/-- Sound values are all closed, and then what follows them. -/
theorem closeEach_append {es : List (String × Item)} (h : ∀ e ∈ es, e.2.fault? = none)
    (rest : List (String × Item)) : closeEach (es ++ rest) =
      ⟨(marks es ++ (closeEach rest).value.1, (closeEach rest).value.2),
        notices es ++ (closeEach rest).entries⟩ := by
  induction es with
  | nil => rfl
  | cons e es ih =>
    obtain ⟨token, i⟩ := e
    have ih := ih fun e he => h e (List.mem_cons_of_mem _ he)
    rw [List.cons_append]
    obtain hc | hc := Item.closing?_of_sound (h _ List.mem_cons_self)
    · rw [closeEach_open _ hc, ih]
      simp [marks, notices, Item.marks, Item.closes, hc]
    · rw [closeEach_closing _ hc, ih]
      simp [marks, notices, Item.closes, hc]

theorem closeEach_of_sound {es : List (String × Item)} (h : ∀ e ∈ es, e.2.fault? = none) :
    closeEach es = ⟨(marks es, .ok ()), notices es⟩ := by
  have := closeEach_append h []
  simpa [closeEach] using this

/-- The first value that fails is the last that is closed. -/
theorem closeEach_of_fault {es : List (String × Item)} (h : ∀ e ∈ es, e.2.fault? = none)
    {e : String × Item} {f : Fault} (he : e.2.fault? = some f) (rest : List (String × Item)) :
    closeEach (es ++ e :: rest) = ⟨(marks (es ++ [e]), .error f), notices (es ++ [e])⟩ := by
  obtain ⟨token, i⟩ := e
  have hc := Item.closing?_of_fault he
  rw [closeEach_append h, closeEach_closing _ hc]
  simp [marks, notices, Item.closes, hc]

def registerAll (c : Container) :
    List (String × Item) → Journaled (Except Fault Container)
  | [] => pure (.ok c)
  | (token, i) :: rest => do
    match ← c.register token i with
    | .ok c => c.registerAll rest
    | .error f => pure (.error f)

def holding (rs : List (String × Item)) : Container := ⟨.ofList rs, none⟩

theorem registerAll_value {c : Container} (hc : c.refusal = none) (rs : List (String × Item)) :
    (c.registerAll rs).value =
      .ok { c with items := rs.foldl (fun t e => t.insert e.1 e.2) c.items } := by
  induction rs generalizing c with
  | nil => rfl
  | cons e rs ih =>
    obtain ⟨token, i⟩ := e
    have hr : (c.register token i).value = .ok { c with items := c.items.insert token i } := by
      simp [register, hc]
    rw [registerAll, Journaled.value_bind, hr]
    exact ih hc

/-- Nothing is refused, and what is there in the end is what was registered. -/
theorem registerAll_empty (rs : List (String × Item)) :
    (empty.registerAll rs).value = .ok (holding rs) := registerAll_value rfl rs

theorem closeAll_of_sound {c : Container} (h : ∀ e ∈ c.items.entries, e.2.fault? = none) :
    c.closeAll = ⟨({ c with items := .empty }, marks c.items.entries.reverse, .ok ()),
      notices c.items.entries.reverse⟩ := by
  have hr : ∀ e ∈ c.items.entries.reverse, e.2.fault? = none :=
    fun e he => h e (List.mem_reverse.1 he)
  rw [closeAll, closeEach_of_sound hr]
  simp [bind, pure]

theorem closeAll_of_fault {c : Container} {earlier later : List (String × Item)}
    {e : String × Item} (hp : c.items.entries = earlier ++ e :: later)
    (h : ∀ e ∈ later, e.2.fault? = none) {f : Fault} (he : e.2.fault? = some f) :
    c.closeAll = ⟨(c, marks (later.reverse ++ [e]), .error f), notices (later.reverse ++ [e])⟩ := by
  have hr : ∀ e ∈ later.reverse, e.2.fault? = none := fun e he => h e (List.mem_reverse.1 he)
  have hrev : c.items.entries.reverse = later.reverse ++ e :: earlier.reverse := by simp [hp]
  rw [closeAll, hrev, closeEach_of_fault hr he]
  simp [bind, pure]

/-- The registrations that were not replaced by later ones. -/
def standing : List (String × Item) → List (String × Item)
  | [] => []
  | e :: rest => if e.1 ∈ rest.map Prod.fst then standing rest else e :: standing rest

theorem standing_sublist (rs : List (String × Item)) : (standing rs).Sublist rs := by
  induction rs with
  | nil => exact .refl []
  | cons e rs ih =>
    rw [standing]
    split
    · exact ih.cons e
    · exact ih.cons_cons e

theorem nodup_standing (rs : List (String × Item)) : ((standing rs).map Prod.fst).Nodup := by
  induction rs with
  | nil => exact .nil
  | cons e rs ih =>
    rw [standing]
    split
    · exact ih
    · next hnew =>
      exact List.nodup_cons.2 ⟨fun hm => hnew (((standing_sublist rs).map Prod.fst).subset hm), ih⟩

theorem lookup_reverse_eq_none {rs : List (String × Item)} {token : String} :
    rs.reverse.lookup token = none ↔ token ∉ rs.map Prod.fst := by
  simp only [List.lookup_eq_none_iff, List.mem_reverse, List.mem_map, bne_iff_ne, not_exists,
    not_and]
  exact forall₂_congr fun _ _ => ne_comm

/-- A registration stands when it is the last for its token. -/
theorem mem_standing {rs : List (String × Item)} {token : String} {i : Item} :
    (token, i) ∈ standing rs ↔ rs.reverse.lookup token = some i := by
  induction rs with
  | nil => simp [standing]
  | cons e rs ih =>
    obtain ⟨t, j⟩ := e
    rw [List.reverse_cons, List.lookup_append, standing]
    cases hl : rs.reverse.lookup token with
    | none =>
      have hnew := lookup_reverse_eq_none.1 hl
      rw [hl] at ih
      by_cases ht : token = t
      · subst ht
        simp [hnew, ih, eq_comm]
      · have hs : (token, i) ∉ standing rs := fun hm => nomatch ih.1 hm
        rw [Option.none_or, List.lookup_cons, beq_eq_false_iff_ne.2 ht]
        split
        · simp [hs]
        · simp [hs, ht]
    | some k =>
      have hold : token ∈ rs.map Prod.fst := by
        refine Classical.byContradiction fun hn => ?_
        rw [lookup_reverse_eq_none.2 hn] at hl
        cases hl
      rw [hl] at ih
      rw [Option.some_or, ← ih]
      split
      · rfl
      · next hnew =>
        have ht : token ≠ t := fun he => hnew (he ▸ hold)
        simp [ht]

/-- The values that are there in the end are those whose registrations stand. -/
theorem entries_perm (rs : List (String × Item)) :
    (holding rs).items.entries.Perm (standing rs) := by
  refine (List.perm_ext_iff_of_nodup (.of_map Prod.fst (holding rs).items.distinct)
    (.of_map Prod.fst (nodup_standing rs))).2 fun e => ?_
  obtain ⟨token, i⟩ := e
  rw [mem_standing, ← Table.get?_ofList]
  exact ⟨(holding rs).items.get?_of_mem, (holding rs).items.mem_of_get?⟩

theorem eq_of_perm_of_keys {es es' : List (String × Item)} (hp : es.Perm es')
    (hd : (es.map Prod.fst).Nodup) (hk : es.map Prod.fst = es'.map Prod.fst) : es = es' := by
  induction es generalizing es' with
  | nil => exact hp.nil_eq
  | cons e es ih =>
    cases es' with
    | nil => cases hk
    | cons e' es' =>
      rw [List.map_cons, List.nodup_cons] at hd
      rw [List.map_cons, List.map_cons, List.cons.injEq] at hk
      have he : e = e' := by
        obtain he | hm := List.mem_cons.1 (hp.subset List.mem_cons_self)
        · exact he
        · exact absurd (hk.2 ▸ List.mem_map_of_mem hm) hd.1
      subst he
      rw [ih hp.cons_inv hd.2 hk.2]

theorem entries_of_nodup {rs : List (String × Item)} (h : (rs.map Prod.fst).Nodup) :
    (holding rs).items.entries = rs := Table.entries_ofList h

/-- What closing comes to when no value fails. All that is there is closed, once each, and the
container is empty afterwards. A token that was registered again keeps its place, so that the
order goes by the first registrations of the tokens. It is the order of the registrations that
stand where the tokens were registered first and last in the same order. -/
structure Shutdown (c : Container) (rs : List (String × Item)) : Prop where
  outcome : c.closeAll.value.2.2 = .ok ()
  emptied : c.closeAll.value.1 = .empty
  present : c.items.entries.Perm (standing rs)
  tokens : c.items.keys = (rs.map Prod.fst).eraseDups
  closed : c.closeAll.entries = notices c.items.entries.reverse
  marked : c.closeAll.value.2.1 = marks c.items.entries.reverse
  once : ∀ e ∈ standing rs, e.2.closes → c.closeAll.entries.count (.said (.closing e.1)) = 1
  recent : (standing rs).map Prod.fst = (rs.map Prod.fst).eraseDups →
    c.closeAll.entries = notices (standing rs).reverse ∧
      c.closeAll.value.2.1 = marks (standing rs).reverse
  distinct : (rs.map Prod.fst).Nodup →
    c.closeAll.entries = notices rs.reverse ∧ c.closeAll.value.2.1 = marks rs.reverse

theorem shutdown {rs : List (String × Item)} (h : ∀ e ∈ standing rs, e.2.fault? = none) :
    ∃ c, (empty.registerAll rs).value = .ok c ∧ Shutdown c rs := by
  have hp := entries_perm rs
  have hc := closeAll_of_sound (c := holding rs) fun e he => h e (hp.subset he)
  have hrev : ((holding rs).items.entries.reverse.map Prod.fst).Nodup := by
    rw [List.map_reverse, List.nodup_reverse]
    exact (holding rs).items.distinct
  refine ⟨holding rs, registerAll_empty rs, by rw [hc], by rw [hc]; rfl, hp, Table.keys_ofList rs,
    by rw [hc], by rw [hc], fun e he hce => ?_, fun ht => ?_, fun hd => ?_⟩
  · rw [hc]
    exact count_notices hrev (List.mem_reverse.2 (hp.symm.subset he)) hce
  · have he : (holding rs).items.entries = standing rs :=
      eq_of_perm_of_keys hp (holding rs).items.distinct ((Table.keys_ofList rs).trans ht.symm)
    rw [hc, he]
    exact ⟨rfl, rfl⟩
  · rw [hc, entries_of_nodup hd]
    exact ⟨rfl, rfl⟩

def closer (id : String) : Item := .closable ⟨id, none, some .returns⟩

def amended : List (String × Item) := [("db", closer "1"), ("db", closer "2"), ("bus", closer "3")]

theorem shutdown_amended : (∀ e ∈ standing amended, e.2.fault? = none) ∧
    ∃ c, (empty.registerAll amended).value = .ok c ∧ Shutdown c amended :=
  have h : ∀ e ∈ standing amended, e.2.fault? = none := by decide
  ⟨h, shutdown h⟩

def replaced : List (String × Item) := [("db", closer "1"), ("bus", closer "2"), ("db", closer "3")]

/-- Registrations that stand are not always closed the last one first. -/
theorem replacement_closed_late :
    ¬∀ rs : List (String × Item), (∀ e ∈ standing rs, e.2.fault? = none) →
      ∀ c, (empty.registerAll rs).value = .ok c →
        c.closeAll.value.2.1 = marks (standing rs).reverse := by
  intro h
  have hs : ∀ e ∈ standing replaced, e.2.fault? = none := by decide
  have hlate : (holding replaced).closeAll.value.2.1 ≠ marks (standing replaced).reverse := by
    decide
  exact hlate (h replaced hs _ (registerAll_empty replaced))

def later (c : Container) (f : String → Closable → Closable) : Container where
  items := ⟨c.items.entries.map fun e => (e.1, e.2.later (f e.1)), by
    rw [List.map_map]
    exact c.items.distinct⟩
  refusal := c.refusal

theorem notices_later (c : Container) {f : String → Closable → Closable}
    (hf : ∀ token v, Closable.Persists v (f token v)) :
    notices (c.later f).items.entries.reverse = notices c.items.entries.reverse := by
  have hc : ((c.later f).items.entries.reverse.filter fun e => e.2.closes) =
      (c.items.entries.reverse.filter fun e => e.2.closes).map
        fun e => (e.1, e.2.later (f e.1)) := by
    rw [later, ← List.map_reverse, List.filter_map]
    exact congrArg (List.map _) (List.filter_congr fun e _ => Item.closes_later (hf e.1) e.2)
  rw [notices, hc, List.map_map]
  rfl

/-- Of some that fail, one is the latest. -/
theorem exists_latest_fault {es : List (String × Item)} (h : ∃ e ∈ es, e.2.fault? ≠ none) :
    ∃ earlier e later f, es = earlier ++ e :: later ∧ e.2.fault? = some f ∧
      ∀ x ∈ later, x.2.fault? = none := by
  induction es with
  | nil => obtain ⟨e, he, -⟩ := h; cases he
  | cons e es ih =>
    by_cases hes : ∃ x ∈ es, x.2.fault? ≠ none
    · obtain ⟨earlier, x, later, f, rfl, hx, hl⟩ := ih hes
      exact ⟨e :: earlier, x, later, f, rfl, hx, hl⟩
    · obtain ⟨x, hx, hxf⟩ := h
      obtain rfl : x = e := (List.mem_cons.1 hx).resolve_right fun hm => hes ⟨x, hm, hxf⟩
      obtain ⟨f, hf⟩ := Option.ne_none_iff_exists'.1 hxf
      exact ⟨[], x, es, f, rfl, hf, fun y hy => Classical.byContradiction fun hn => hes ⟨y, hy, hn⟩⟩

/-- However closing ends, it keeps to the one order and stops nowhere but at a fault. -/
theorem closeAll_prefix (c : Container) :
    c.closeAll.entries <+: notices c.items.entries.reverse := by
  by_cases h : ∃ e ∈ c.items.entries, e.2.fault? ≠ none
  · obtain ⟨earlier, e, later, f, hp, he, hl⟩ := exists_latest_fault h
    have hrev : c.items.entries.reverse = (later.reverse ++ [e]) ++ earlier.reverse := by simp [hp]
    rw [closeAll_of_fault hp hl he, hrev, notices_append _ earlier.reverse]
    exact List.prefix_append _ _
  · have hs : ∀ e ∈ c.items.entries, e.2.fault? = none :=
      fun e he => Classical.byContradiction fun hn => h ⟨e, he, hn⟩
    have he : c.closeAll.entries = notices c.items.entries.reverse := by rw [closeAll_of_sound hs]
    exact he ▸ List.prefix_rfl

/-- What closing comes to when a value fails. Those that were registered after it have been closed,
the last one first, and none that was registered before it. The container is as it was. Another
attempt takes the same order, and when nothing fails any more it closes everything. -/
structure Interrupted (c : Container) (earlier : List (String × Item)) (e : String × Item)
    (later : List (String × Item)) (f : Fault) : Prop where
  blamed : e.2.fault? = some f
  sound : ∀ x ∈ later, x.2.fault? = none
  outcome : c.closeAll.value.2.2 = .error f
  closed : c.closeAll.entries = notices (later.reverse ++ [e])
  marked : c.closeAll.value.2.1 = marks (later.reverse ++ [e])
  once : ∀ x ∈ later, x.2.closes → c.closeAll.entries.count (.said (.closing x.1)) = 1
  untouched : ∀ x ∈ earlier, .said (.closing x.1) ∉ c.closeAll.entries
  kept : c.closeAll.value.1 = c
  resolves : ∀ x ∈ earlier ++ e :: later, c.closeAll.value.1.resolve x.1 = .ok x.2
  again : c.closeAll.value.1.closeAll = c.closeAll
  retried : ∀ g, (∀ token v, Closable.Persists v (g token v)) →
    (c.closeAll.value.1.later g).closeAll.entries <+: notices (earlier ++ e :: later).reverse ∧
      ((∀ x ∈ earlier ++ e :: later, (x.2.later (g x.1)).fault? = none) →
        (c.closeAll.value.1.later g).closeAll.value.2.2 = .ok () ∧
          (c.closeAll.value.1.later g).closeAll.value.1 = .empty ∧
          (c.closeAll.value.1.later g).closeAll.entries = notices (earlier ++ e :: later).reverse)

theorem interruption {rs : List (String × Item)} (hd : (rs.map Prod.fst).Nodup)
    (hf : ∃ e ∈ rs, e.2.fault? ≠ none) : ∃ c earlier e later f,
      (empty.registerAll rs).value = .ok c ∧ rs = earlier ++ e :: later ∧
        Interrupted c earlier e later f := by
  obtain ⟨earlier, e, later, f, rfl, he, hl⟩ := exists_latest_fault hf
  have hp := entries_of_nodup hd
  have hc := closeAll_of_fault hp hl he
  have hkept : (holding (earlier ++ e :: later)).closeAll.value.1 =
      holding (earlier ++ e :: later) := by rw [hc]
  have hde : ((later.reverse ++ [e]).map Prod.fst).Nodup := by
    rw [← List.reverse_cons, List.map_reverse, List.nodup_reverse]
    exact hd.sublist ((List.sublist_append_right earlier (e :: later)).map Prod.fst)
  rw [List.map_append, List.nodup_append] at hd
  refine ⟨_, earlier, e, later, f, registerAll_empty _, rfl, he, hl, by rw [hc], by rw [hc],
    by rw [hc], fun x hx hcx => ?_, fun x hx hm => ?_, hkept, fun x hx => ?_, by rw [hkept],
    fun g hg => ?_⟩
  · rw [hc]
    exact count_notices hde (List.mem_append_left _ (List.mem_reverse.2 hx)) hcx
  · rw [hc] at hm
    obtain ⟨y, hy, -, hxy⟩ := mem_notices.1 hm
    rw [← List.reverse_cons, List.mem_reverse] at hy
    exact hd.2.2 _ (List.mem_map_of_mem hx) _ (List.mem_map_of_mem hy) hxy.symm
  · rw [hkept, resolve, (holding _).items.get?_of_mem (hp ▸ hx)]
  · have hnotices := notices_later (holding (earlier ++ e :: later)) hg
    rw [hp] at hnotices
    rw [hkept]
    refine ⟨hnotices ▸ closeAll_prefix _, fun hs => ?_⟩
    have hsound : ∀ x ∈ ((holding (earlier ++ e :: later)).later g).items.entries,
        x.2.fault? = none := by
      intro x hx
      obtain ⟨y, hy, rfl⟩ := List.mem_map.1 hx
      exact hs y (hp ▸ hy)
    rw [closeAll_of_sound hsound]
    exact ⟨rfl, rfl, hnotices⟩

def failing : List (String × Item) :=
  [("db", closer "1"), ("mail", .plain .null), ("bus", .closable ⟨"2", some .fails, none⟩),
    ("cache", .closable ⟨"3", none, some .suspends⟩)]

/-- A value is left alone since one that was registered after it fails. -/
theorem interruption_failing : (failing.map Prod.fst).Nodup ∧ (∃ e ∈ failing, e.2.fault? ≠ none) ∧
    ∃ c earlier e later f, (empty.registerAll failing).value = .ok c ∧
      failing = earlier ++ e :: later ∧ Interrupted c earlier e later f := by
  have hd : (failing.map Prod.fst).Nodup := by decide
  have hf : ∃ e ∈ failing, e.2.fault? ≠ none := by
    refine ⟨("bus", .closable ⟨"2", some .fails, none⟩), ?_, nofun⟩
    exact List.mem_cons_of_mem _ (List.mem_cons_of_mem _ List.mem_cons_self)
  exact ⟨hd, hf, interruption hd hf⟩

end Container

end LiveConfig
