import LiveConfig.Proofs.Rereading
import LiveConfig.Proofs.Showing
import LiveConfig.Proofs.Storage
set_option autoImplicit false

/-!
What the command that resolves a resource prints. Sorting brings keys into the order of their code
points and changes nothing else, and the text on many lines is read back as what was sorted.
-/
namespace LiveConfig
open Text (CodePoint)

theorem Text.le_iff_codes (a b : String) :
    a ≤ b ↔ ¬b.toList.map Char.toNat < a.toList.map Char.toNat := by
  refine ⟨codes_not_lt, fun h => ?_⟩
  by_contra hle
  have hba := (String.le_total a b).resolve_left hle
  exact h (codes_lt hba fun he => hle (he ▸ hba))

namespace Json

/-- Keys stand in the order of the texts that they are. -/
theorem pointsBefore_codePoints (a b : String) :
    pointsBefore (Text.codePoints a) (Text.codePoints b) = decide (a ≤ b) := by
  have hcodes : ∀ t : String,
      (Text.codePoints t).map CodePoint.toNat = t.toList.map Char.toNat := fun t => List.map_map
  rw [Bool.eq_iff_iff, pointsBefore_iff, hcodes, hcodes, decide_eq_true_iff, Text.le_iff_codes]

theorem sortKeys_text (t : String) : (text t).sortKeys = text t := rfl

/-- A value on many lines is read back, whatever blanks are printed behind it. -/
theorem ofText_onLines {v : Json} (h : Storable v) {levels : Nat} (hl : v.depth ≤ levels)
    {after : List Char} (ha : Blank after) :
    ofText levels ((onLines.chars 0 v ++ after).map .scalar) = .ok v := by
  have hspells := onLines.spells h 0
  obtain ⟨c, more, hc, -⟩ := hspells.begins
  -- A byte order mark would be refused, and no text in ASCII begins with one.
  have hmark : c ≠ '\uFEFF' := by
    rintro rfl
    exact absurd (onLines.ascii h 0 _ (hc ▸ List.mem_cons_self)) (by decide)
  rw [← hspells.document hl ha, hc, ofText.eq_def]
  split
  · next he =>
    cases he
    exact absurd rfl hmark
  · rfl

end Json

namespace Table

def sorted (t : Table String String) : Table String String where
  entries := t.entries.mergeSort fun a b => decide (a.1 ≤ b.1)
  distinct := (((List.mergeSort_perm _ _).map Prod.fst).nodup_iff).2 t.distinct

theorem pairwise_sorted (t : Table String String) : t.sorted.entries.Pairwise
    fun a b => a.1.toList.map Char.toNat < b.1.toList.map Char.toNat := by
  refine t.pairwise_mergeSort (fun a b => decide (a ≤ b)) (fun a => a.toList.map Char.toNat)
    (fun a b => ?_) fun a b h => ?_
  · rw [decide_eq_true_iff, Text.le_iff_codes]
  · exact String.toList_inj.1 ((List.map_inj_right fun _ _ => Char.toNat_inj.1).1 h)

theorem sortKeys_json (t : Table String String) : t.json.sortKeys = t.sorted.json := by
  have hmembers : ∀ es : List (String × String),
      Json.sortMembers (es.map fun e => (Text.codePoints e.1, .text e.2)) =
        es.map fun e => (Text.codePoints e.1, .text e.2) := by
    intro es
    induction es with
    | nil => rfl
    | cons e es ih => rw [List.map_cons, Json.sortMembers, ih, Json.sortKeys_text]
  rw [json, Json.sortKeys, hmembers]
  exact congrArg Json.obj
    (List.map_mergeSort fun a _ b _ => (Json.pointsBefore_codePoints a.1 b.1).symm).symm

end Table

namespace Command

def disclosed (provider : String) (properties : Table String String) : Json :=
  .obj [(Text.codePoints "properties", properties.json),
    (Text.codePoints "provider", .text provider)]

theorem sortKeys_resolutionJson (r : Resolution) :
    (resolutionJson r).sortKeys = disclosed r.provider r.properties.sorted := by
  have hafter : Json.pointsBefore (Text.codePoints "provider") (Text.codePoints "properties") =
      false := by decide
  have hobject : resolutionJson r = .obj [(Text.codePoints "provider", .text r.provider),
    (Text.codePoints "properties", r.properties.json)] := rfl
  simp [hobject, Json.sortKeys, Json.sortMembers, Json.sortKeys_text, disclosed,
    Table.sortKeys_json, List.mergeSort, List.MergeSort.Internal.splitInTwo, hafter]

theorem disclosed_storable (provider : String) (properties : Table String String) :
    (disclosed provider properties).Storable := by
  have hdistinct : [Text.codePoints "properties", Text.codePoints "provider"].Nodup := by decide
  refine .obj hdistinct (fun m hm => ?_) (fun m hm => ?_)
  · simp only [List.mem_cons, List.not_mem_nil, or_false] at hm
    obtain rfl | rfl := hm <;> exact ⟨_, rfl⟩
  · simp only [List.mem_cons, List.not_mem_nil, or_false] at hm
    obtain rfl | rfl := hm
    · exact properties.json_storable
    · exact .str provider

theorem depth_disclosed (provider : String) (properties : Table String String) :
    (disclosed provider properties).depth = 2 := by
  simp [disclosed, Json.depth, Json.membersDepth, Table.depth_json, Json.text]

/-- What is printed for a resource: one object with the properties and the provider, on many lines
and with a line break at the end. The keys of both objects ascend, those of the properties by their
code points. The text is in ASCII, and it is read back as the object, with all the properties and
nothing else, wherever there are two levels left. -/
structure Disclosure (r : Resolution) (properties : Table String String) (out : String) : Prop where
  perm : properties.entries.Perm r.properties.entries
  ascends : properties.entries.Pairwise
    fun a b => a.1.toList.map Char.toNat < b.1.toList.map Char.toNat
  lines : out.toList = Json.indentedChars 0 (disclosed r.provider properties) ++ ['\n']
  ascii : Json.Ascii out.toList
  decoded : ∀ levels, 2 ≤ levels →
    Json.ofText levels (Text.codePoints out) = .ok (disclosed r.provider properties)

theorem disclosure_of_resolution (r : Resolution) :
    Disclosure r r.properties.sorted (Json.indented (resolutionJson r) ++ "\n") := by
  have hstorable := disclosed_storable r.provider r.properties.sorted
  have hlines : (Json.indented (resolutionJson r) ++ "\n").toList =
      Json.onLines.chars 0 (disclosed r.provider r.properties.sorted) ++ ['\n'] := by
    rw [String.toList_append, Json.indented, String.toList_ofList, sortKeys_resolutionJson]
    rfl
  have hend : Json.Blank ['\n'] := by decide
  refine ⟨List.mergeSort_perm _ _, r.properties.pairwise_sorted, hlines, ?_, fun levels hl => ?_⟩
  · rw [hlines]
    exact Json.ascii_append (Json.onLines.ascii hstorable 0) (Json.ascii_blank hend)
  · rw [Text.codePoints, hlines]
    exact Json.ofText_onLines hstorable (depth_disclosed .. ▸ hl) hend

/-- Any console takes a line in ASCII. -/
theorem printed_ascii (console : Console) {t : String} (h : Json.Ascii t.toList) :
    printed console [Text.codePoints t] =
      ⟨some 0, some (Text.codePoints (t ++ "\n")), some "", [], none⟩ := by
  have htaken : console.refusal (Text.codePoints t) = none := console.ascii _ fun p hp => by
    obtain ⟨c, hc, rfl⟩ := List.mem_map.1 hp
    exact h c hc
  rw [printed_of_taken fun line hline => List.mem_singleton.1 hline ▸ htaken, ended,
    List.flatMap_singleton, Text.codePoints, Text.codePoints, String.toList_append,
    List.map_append]
  rfl

/-- Resolving a resource prints what it is resolved to, whatever the environment holds. -/
theorem disclosure (console : Console) (env : Environment) (w : World) (logLevel : Option String)
    (type : String) (name : Option String) : ∃ properties out,
      Disclosure (Resource.resolve ⟨type, name⟩ ⟨"CELERITY", env⟩) properties out ∧
      Invocation.run console env w ⟨logLevel, .resolve type name⟩ =
        pure (.ok ⟨some 0, some (Text.codePoints out), some "", [], none⟩) := by
  have h := disclosure_of_resolution (Resource.resolve ⟨type, name⟩ ⟨"CELERITY", env⟩)
  have hascii : Json.Ascii
      (Json.indented (resolutionJson (Resource.resolve ⟨type, name⟩ ⟨"CELERITY", env⟩))).toList :=
    fun c hc => h.ascii c (by rw [String.toList_append]; exact List.mem_append_left _ hc)
  refine ⟨_, _, h, ?_⟩
  rw [← printed_ascii console hascii]
  rfl

example : Json.indentedChars 0 (disclosed "aws" (.ofList [("HOST", "é")])) =
    ("\x7b\n  \"properties\": \x7b\n    \"HOST\": \"\\u00e9\"\n  \x7d,\n" ++
      "  \"provider\": \"aws\"\n\x7d").toList := by
  decide

end Command

end LiveConfig
