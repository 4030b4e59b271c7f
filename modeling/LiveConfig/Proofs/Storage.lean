import LiveConfig.Proofs.Rereading
import LiveConfig.Proofs.Transcription
import Mathlib.Data.List.Nodup
set_option autoImplicit false

/-!
What is stored as its JSON text is fetched as it was, whether the store gives text or bytes. An
object that is not too deep comes back as a snapshot with a setting for each of its members.
-/
namespace LiveConfig
open Text (CodePoint Points)

namespace Json

def Room.Holds (room : Room) (v : Json) : Prop := v.depth ≤ room.reading ∧ v.depth ≤ room.writing

theorem Room.Holds.value {room : Room} {members : List (Points × Json)}
    (h : room.Holds (.obj members)) {m : Points × Json} (hm : m ∈ members) : room.Holds m.2 := by
  obtain ⟨reading, hr, hreading⟩ := depth_obj_le h.1
  obtain ⟨writing, hw, hwriting⟩ := depth_obj_le h.2
  have hread := hreading m hm
  have hwrite := hwriting m hm
  exact ⟨by omega, by omega⟩

theorem plainText_obj (members : List (Points × Json)) :
    (obj members).plainText = (obj members).compactChars.map .scalar := Text.codePoints_ofList _

end Json

inductive Payload.Holds : Points → Payload → Prop where
  | text (points : Points) : Holds points (.text points)
  | bytes (t : String) : Holds (Text.codePoints t) (.bytes t.toUTF8.data.toList)

theorem Payload.json_of_holds {members : List (Points × Json)} (h : (Json.obj members).Storable)
    {levels : Nat} (hl : (Json.obj members).depth ≤ levels) {points : Points}
    (hpoints : points = (Json.obj members).compactChars.map .scalar) {p : Payload}
    (hp : p.Holds points) : p.json levels = .ok (.obj members) := by
  have hread := Json.ofCodePoints_written h hl
  rw [← hpoints] at hread
  cases hp with
  | text =>
    have hmark : Json.ofText levels points = Json.ofCodePoints levels points := by
      subst hpoints
      cases members <;> rfl
    rw [json, hmark, hread]
    rfl
  | bytes t =>
    refine Payload.json_of_utf8 ⟨_, _, .inl rfl, ?_, hread⟩
    rw [← Bytes.encode_utf8, Bytes.decodeUtf8_encode]
    rfl

def Table.json (t : Table String String) : Json :=
  .obj (t.entries.map fun e => (Text.codePoints e.1, .text e.2))

theorem Table.json_storable (t : Table String String) : t.json.Storable := by
  refine .obj ?_ (fun m hm => ?_) (fun m hm => ?_)
  · have hkeys : (t.entries.map fun e => (Text.codePoints e.1, Json.text e.2)).map Prod.fst =
        (t.entries.map Prod.fst).map Text.codePoints := by
      rw [List.map_map, List.map_map]
      rfl
    rw [hkeys]
    exact t.distinct.map fun _ _ => Text.codePoints_injective
  · obtain ⟨e, -, rfl⟩ := List.mem_map.1 hm
    exact ⟨e.1, rfl⟩
  · obtain ⟨e, -, rfl⟩ := List.mem_map.1 hm
    exact .str e.2

theorem Table.depth_json (t : Table String String) : t.json.depth = 1 := by
  have hflat : Json.membersDepth (t.entries.map fun e => (Text.codePoints e.1, .text e.2)) ≤ 0 := by
    refine Json.membersDepth_le.2 fun m hm => ?_
    obtain ⟨e, -, rfl⟩ := List.mem_map.1 hm
    exact Nat.le_refl 0
  rw [json, Json.depth]
  omega

namespace Snapshot

/-- The text is fetched as the snapshot, from any store. -/
def FetchedFrom (room : Json.Room) (s : Snapshot) (points : Points) : Prop :=
  ∀ storeId p, Payload.Holds points p → ofPayload room storeId p = .ok s

/-- The settings that an object holds: strings as they are, other values as their JSON text. -/
def shown (members : List (Points × Json)) : List (Points × Points) :=
  members.map fun m => (m.1, m.2.plainText)

theorem entries_ofMembers {members : List (Points × Json)}
    (h : (members.map Prod.fst).Nodup) : (ofMembers members).entries = shown members := by
  refine Table.entries_ofList ?_
  rw [List.map_map]
  exact h

section Fetched
variable {room : Json.Room}

theorem fetchedFrom_compact {members : List (Points × Json)} (h : (Json.obj members).Storable)
    (hr : (Json.obj members).depth ≤ room.reading)
    (hw : ∀ m ∈ members, m.2.depth ≤ room.writing) :
    (ofMembers members).FetchedFrom room (Json.obj members).plainText := by
  intro storeId p hp
  exact ofPayload_eq_ok.2
    ⟨members, Payload.json_of_holds h hr (Json.plainText_obj members) hp, hw, rfl⟩

theorem fetchedFrom_of_holds {members : List (Points × Json)} (h : (Json.obj members).Storable)
    (hl : room.Holds (.obj members)) :
    (ofMembers members).FetchedFrom room (Json.obj members).plainText ∧
      (ofMembers members).entries = shown members := by
  refine ⟨fetchedFrom_compact h hl.1 fun m hm => (hl.value hm).2, ?_⟩
  cases h with
  | obj distinct _ _ => exact entries_ofMembers distinct

end Fetched

def ofTexts (t : Table String String) : Snapshot where
  entries := t.entries.map fun e => (Text.codePoints e.1, Text.codePoints e.2)
  distinct := by
    have hkeys := t.distinct.map fun _ _ => Text.codePoints_injective
    rwa [List.map_map] at hkeys ⊢

theorem ofMembers_json (t : Table String String) :
    ofMembers (t.entries.map fun e => (Text.codePoints e.1, .text e.2)) = ofTexts t := by
  have hs := t.json_storable
  have he : (ofMembers (t.entries.map fun e => (Text.codePoints e.1, .text e.2))).entries =
      (ofTexts t).entries := by
    cases hs with
    | obj distinct _ _ =>
      rw [entries_ofMembers distinct, shown, List.map_map]
      rfl
  exact (Table.mk.injEq ..).mpr he

/-- What is stored as its JSON text comes back if there is room for it. An object is fetched with
exactly one setting for each member, and an object in it can be fetched in its turn from the
setting that holds it; texts under texts are fetched unchanged. -/
theorem stored (room : Json.Room) :
    (∀ members, (Json.obj members).Storable → room.Holds (.obj members) →
      ∃ s : Snapshot, s.FetchedFrom room (Json.obj members).plainText ∧ s.entries = shown members ∧
        ∀ k inner, (k, Json.obj inner) ∈ members →
          ∃ t s', s.get? k = some t ∧ FetchedFrom room s' t ∧ s'.entries = shown inner) ∧
      (0 < room.reading →
        ∀ t : Table String String, (ofTexts t).FetchedFrom room t.json.plainText) := by
  refine ⟨fun members h hl => ?_, fun hr t => ?_⟩
  · obtain ⟨hf, he⟩ := fetchedFrom_of_holds h hl
    refine ⟨ofMembers members, hf, he, fun k inner hk => ?_⟩
    have hinner : (Json.obj inner).Storable := by
      cases h with
      | obj _ _ values => exact values _ hk
    obtain ⟨hf', he'⟩ := fetchedFrom_of_holds hinner (hl.value hk)
    refine ⟨_, _, Table.get?_of_mem _ ?_, hf', he'⟩
    rw [he]
    exact List.mem_map_of_mem hk
  · have hwritten : ∀ m ∈ t.entries.map fun e => (Text.codePoints e.1, Json.text e.2),
        m.2.depth ≤ room.writing := fun m hm => by
      obtain ⟨e, -, rfl⟩ := List.mem_map.1 hm
      exact Nat.zero_le _
    have hf := fetchedFrom_compact t.json_storable (t.depth_json ▸ hr) hwritten
    rwa [ofMembers_json] at hf

def keepsake : List (Points × Json) :=
  [(Text.codePoints "\x01\"", .arr [.null, .bool true, .int (-120), .text "é\n"]),
    (Text.codePoints "😀", .obj [(Text.codePoints "", .text "\\")])]

theorem keepsake_storable : (Json.obj keepsake).Storable := by
  have hlist : (Json.arr [.null, .bool true, .int (-120), .text "é\n"]).Storable := by
    refine .arr fun v hv => ?_
    simp only [List.mem_cons, List.not_mem_nil, or_false] at hv
    obtain rfl | rfl | rfl | rfl := hv
    · exact .null
    · exact .bool true
    · exact .int (by decide)
    · exact .str _
  have hinner : (Json.obj [(Text.codePoints "", .text "\\")]).Storable := by
    refine .obj (by decide) (fun m hm => ?_) (fun m hm => ?_) <;> cases List.mem_singleton.1 hm
    · exact ⟨"", rfl⟩
    · exact .str _
  refine .obj (by decide) (fun m hm => ?_) (fun m hm => ?_)
  · simp only [keepsake, List.mem_cons, List.not_mem_nil, or_false] at hm
    obtain rfl | rfl := hm <;> exact ⟨_, rfl⟩
  · simp only [keepsake, List.mem_cons, List.not_mem_nil, or_false] at hm
    obtain rfl | rfl := hm
    · exact hlist
    · exact hinner

theorem stored_keepsake : (Json.obj keepsake).Storable ∧ Json.Room.usual.Holds (.obj keepsake) ∧
    0 < Json.Room.usual.reading ∧
    ∃ s : Snapshot, s.FetchedFrom .usual (Json.obj keepsake).plainText ∧
      s.entries = [(Text.codePoints "\x01\"",
          Text.codePoints "[null, true, -120, \"\\u00e9\\n\"]"),
        (Text.codePoints "😀", Text.codePoints "\x7b\"\": \"\\\\\"\x7d")] := by
  have hroom : Json.Room.usual.Holds (.obj keepsake) := ⟨by decide, by decide⟩
  obtain ⟨s, hs, he, -⟩ := (stored .usual).1 keepsake keepsake_storable hroom
  exact ⟨keepsake_storable, hroom, by decide, s, hs, he.trans (by decide +kernel)⟩

def nested : Nat → Json
  | 0 => .arr []
  | n + 1 => .arr [nested n]

theorem nested_storable (n : Nat) : (nested n).Storable := by
  induction n with
  | zero => exact .arr nofun
  | succ n ih => exact .arr fun v hv => List.mem_singleton.1 hv ▸ ih

theorem compactChars_nested (n : Nat) :
    ∃ more, (nested n).compactChars = List.replicate (n + 1) '[' ++ more := by
  induction n with
  | zero => exact ⟨[']'], rfl⟩
  | succ n ih =>
    obtain ⟨more, h⟩ := ih
    refine ⟨more ++ [']'], ?_⟩
    rw [nested, Json.compactChars, h]
    simp [Json.moreElements, List.replicate_succ]

/-- Each opening bracket takes a level, and the first for which there is none ends the reading. -/
theorem readValue_nested (levels fuel : Nat) (hf : 2 * levels < fuel) (rest : List CodePoint) :
    Json.readValue fuel levels (List.replicate (levels + 1) (.scalar '[') ++ rest) =
      .error (.tooDeep .readingArray) := by
  induction levels generalizing fuel with
  | zero =>
    obtain ⟨fuel, rfl⟩ := Nat.exists_eq_succ_of_ne_zero (Nat.ne_of_gt hf)
    rfl
  | succ levels ih =>
    obtain ⟨fuel, rfl⟩ : ∃ k, fuel = k + 2 := ⟨fuel - 2, by omega⟩
    have hinner : Json.readElements (fuel + 1) levels
        (List.replicate (levels + 1) (.scalar '[') ++ rest) =
          .error (.tooDeep .readingArray) := by
      rw [Json.readElements, ih fuel (by omega)]
      rfl
    rw [List.replicate_succ, List.cons_append, Json.readValue, Json.descend_succ_bind]
    exact congrArg (· >>= _) hinner

def matryoshka (n : Nat) : List (Points × Json) := [(Text.codePoints "a", nested n)]

theorem matryoshka_storable (n : Nat) : (Json.obj (matryoshka n)).Storable := by
  refine .obj (List.nodup_singleton _) (fun m hm => ?_) (fun m hm => ?_) <;>
    cases List.mem_singleton.1 hm
  · exact ⟨"a", rfl⟩
  · exact nested_storable n

theorem readMembers_nested (levels fuel : Nat) (hf : 2 * levels < fuel) (rest : List CodePoint) :
    Json.readMembers (fuel + 1) levels [] (.scalar '"' :: .scalar 'a' :: .scalar '"' ::
        .scalar ':' :: .scalar ' ' :: (List.replicate (levels + 1) (.scalar '[') ++ rest)) =
      .error (.tooDeep .readingArray) := by
  have hkey : ∀ s, Json.readString (.scalar 'a' :: .scalar '"' :: s) =
      .ok (Text.codePoints "a", s) := Json.readString_written "a"
  have hvalue : Json.readValue fuel levels (Json.skipSpace (.scalar ' ' ::
      (List.replicate (levels + 1) (.scalar '[') ++ rest))) = .error (.tooDeep .readingArray) :=
    readValue_nested levels fuel hf rest
  have hcolon : ∀ s, Json.skipSpace (.scalar ':' :: s) = .scalar ':' :: s := fun _ => rfl
  rw [Json.readMembers]
  simp only [hkey, bind, Except.bind, hcolon, hvalue]

theorem plainText_matryoshka {levels n : Nat} (h : levels ≤ n) :
    ∃ rest, (Json.obj (matryoshka n)).plainText = .scalar '\x7b' :: .scalar '"' :: .scalar 'a' ::
      .scalar '"' :: .scalar ':' :: .scalar ' ' ::
        (List.replicate (levels + 1) (.scalar '[') ++ rest) := by
  obtain ⟨more, hn⟩ := compactChars_nested n
  have hkey : Json.stringChars (Text.codePoints "a") = ['"', 'a', '"'] := by decide
  have hsplit : n + 1 = levels + 1 + (n - levels) := by omega
  refine ⟨(List.replicate (n - levels) '[' ++ more ++ ['\x7d']).map .scalar, ?_⟩
  rw [Json.plainText_obj, matryoshka, Json.compactChars, hkey, hn, hsplit, List.replicate_add]
  simp only [Json.moreMembers, List.map_append, List.map_cons, List.map_nil, List.map_replicate,
    List.append_assoc, List.cons_append, List.nil_append]

/-- However much room there is, an object that is nested deeper is not read. -/
theorem ofPayload_nested {levels n : Nat} (h : levels ≤ n) (writing : Nat) (storeId : String) :
    ofPayload ⟨levels + 1, writing⟩ storeId (.text (Json.obj (matryoshka n)).plainText) =
      .error (.json (.tooDeep .readingArray)) := by
  obtain ⟨rest, htext⟩ := plainText_matryoshka h
  rw [ofPayload, Payload.json, htext]
  generalize hs : List.replicate (levels + 1) (CodePoint.scalar '[') ++ rest = s
  have hdocument : Json.readDocument (levels + 1) (.scalar '\x7b' :: .scalar '"' :: .scalar 'a' ::
      .scalar '"' :: .scalar ':' :: .scalar ' ' :: s) = .error (.tooDeep .readingArray) := by
    have hread : ∀ fuel, 2 * s.length ≤ fuel → Json.readMembers (fuel + 1) levels [] (.scalar '"' ::
        .scalar 'a' :: .scalar '"' :: .scalar ':' :: .scalar ' ' :: s) =
          .error (.tooDeep .readingArray) := by
      intro fuel hf
      rw [← hs, List.length_append, List.length_replicate] at hf
      rw [← hs]
      exact readMembers_nested levels fuel (by omega) rest
    have hbrace : ∀ t, Json.skipSpace (.scalar '\x7b' :: t) = .scalar '\x7b' :: t := fun _ => rfl
    have hobject : ∀ fuel t, Json.readValue (fuel + 1) (levels + 1)
        (.scalar '\x7b' :: .scalar '"' :: t) =
          Json.readMembers fuel levels [] (.scalar '"' :: t) >>= fun r => pure (.obj r.1, r.2) := by
      intro fuel t
      rw [Json.readValue]
      rfl
    rw [Json.readDocument, hbrace, hobject, hread]
    · rfl
    · simp only [List.length_cons]
      omega
  have hmark : ∀ t, Json.ofText (levels + 1) (.scalar '\x7b' :: t) =
      Json.ofCodePoints (levels + 1) (.scalar '\x7b' :: t) := fun _ => rfl
  rw [hmark, Json.ofCodePoints, hdocument]
  rfl

/-- There is an object that is written, but not read again. -/
theorem stored_matryoshka : (Json.obj (matryoshka 29999)).Storable ∧ ∀ storeId,
    ofPayload .usual storeId (.text (Json.obj (matryoshka 29999)).plainText) =
      .error (.json (.tooDeep .readingArray)) :=
  ⟨matryoshka_storable _, ofPayload_nested (by decide) 980⟩

end Snapshot

end LiveConfig
