import GameNight.Folder
import GameNight.Proofs.Shortlist.Finding
import GameNight.Proofs.Text.Lines

/-!
# GameNight.Proofs.Folder.LineFiles

Files of lines, written and read again.

Writing makes folders on its way and then puts one file in its place, so whatever
was a folder stays one (`Keeps`), and the way can be followed again afterwards
(`follow?_of_makeWay`).  Hence a file that was written is read with the bytes it
was written with (`read_of_write`), and what is left to say is which lines their
own bytes give back.
-/

namespace GameNight.Folder

variable {f f' : Folder} {p q : Place} {e : Entry} {path : String} {bytes : ByteArray}

/-! ## entries -/

theorem get?_set_self (hp : p ≠ []) : (f.set p e).get? p = some e := by
  unfold get?
  split
  · contradiction
  · exact List.lookup_cons_self

theorem lookup_filter_ne {entries : List (Place × Entry)} (h : q ≠ p) :
    (entries.filter (·.1 != p)).lookup q = entries.lookup q := by
  induction entries with
  | nil => rfl
  | cons entry entries ih =>
    by_cases hentry : entry.1 = p
    · rw [List.filter_cons_of_neg (by simpa using hentry), ih, List.lookup_cons,
        beq_eq_false_iff_ne.mpr (hentry ▸ h)]
    · rw [List.filter_cons_of_pos (by simpa using hentry), List.lookup_cons, List.lookup_cons, ih]

theorem get?_set_of_ne (h : q ≠ p) : (f.set p e).get? q = f.get? q := by
  unfold get?
  split
  · rfl
  · change List.lookup q ((p, e) :: f.entries.filter (·.1 != p)) = _
    rw [List.lookup_cons, beq_eq_false_iff_ne.mpr h]
    exact lookup_filter_ne h

/-! ## where the folder is -/

@[simp] theorem ownBytes_set : (f.set p e).ownBytes = f.ownBytes := rfl

/-- Folders are made inside the folder, which stays where it is. -/
theorem ownBytes_makeWay (f : Folder) (p : Place) (way : List Step) :
    (f.makeWay p way).1.ownBytes = f.ownBytes := by
  fun_induction makeWay f p way with
  | case1 | case4 | case6 => rfl
  | case2 f p way ih | case3 f p name way _ ih | case5 f p name way _ _ ih => exact ih

/-! ## folders stay folders -/

/-- Whether every folder of one state is a folder of a later one. -/
def Keeps (f f' : Folder) : Prop := ∀ p, f.get? p = some .folder → f'.get? p = some .folder

theorem Keeps.trans {f'' : Folder} (h : f.Keeps f') (h' : f'.Keeps f'') : f.Keeps f'' :=
  fun p hp => h' p (h p hp)

/-- A file may be put where no folder is, and a folder anywhere. -/
theorem keeps_set (h : f.get? p ≠ some .folder ∨ e = .folder) : f.Keeps (f.set p e) := by
  intro q hq
  by_cases hqp : q = p
  · rw [hqp] at hq ⊢
    obtain rfl := h.resolve_left fun hne => hne hq
    by_cases hp : p = []
    · rw [hp]
      rfl
    · exact get?_set_self hp
  · rwa [get?_set_of_ne hqp]

theorem keeps_makeWay (f : Folder) (p : Place) (way : List Step) :
    f.Keeps (f.makeWay p way).1 := by
  fun_induction makeWay f p way with
  | case1 => exact fun _ h => h
  | case2 f p way ih => exact ih
  | case3 f p name way _ ih => exact ih
  | case4 => exact fun _ h => h
  | case5 f p name way _ _ ih => exact (keeps_set (.inr rfl)).trans ih
  | case6 => exact fun _ h => h

/-! ## ways -/

theorem isFolder_iff : (f.get? p).any Entry.isFolder = true ↔ f.get? p = some .folder := by
  rcases f.get? p with _ | _ | _ <;> simp [Entry.isFolder]

/-- A way that was followed can be followed later. -/
theorem follow?_of_keeps {way : List Step} (h : f.Keeps f') (hf : f.follow? p way = some q) :
    f'.follow? p way = some q := by
  fun_induction follow? f p way with
  | case1 p => exact hf
  | case2 p way ih => exact ih hf
  | case3 p name way hfolder ih =>
    rw [follow?, if_pos (isFolder_iff.mpr (h _ (isFolder_iff.mp hfolder)))]
    exact ih hf
  | case4 => contradiction

/-- A way that was made can be followed. -/
theorem follow?_of_makeWay {way : List Step} (h : f.makeWay p way = (f', some q)) :
    f'.follow? p way = some q := by
  fun_induction makeWay f p way with
  | case1 f p =>
    obtain ⟨-, hq⟩ := Prod.mk.inj h
    exact hq
  | case2 f p way ih => exact ih h
  | case3 f p name way hfolder ih =>
    have hkept : f.Keeps f' := by simpa [h] using keeps_makeWay f (name :: p) way
    rw [follow?, if_pos (isFolder_iff.mpr (hkept _ hfolder))]
    exact ih h
  | case4 => cases h
  | case5 f p name way _ _ ih =>
    have hkept : (f.set (name :: p) .folder).Keeps f' := by
      simpa [h] using keeps_makeWay (f.set (name :: p) .folder) (name :: p) way
    rw [follow?, if_pos (isFolder_iff.mpr (hkept _ (get?_set_self (List.cons_ne_nil _ _))))]
    exact ih h
  | case6 => cases h

/-! ## files -/

/-- What it takes to write a file: the way to it can be made, and the file has a
name under which there is no folder. -/
theorem exists_of_write (h : f.write path bytes = (f', .ok ())) :
    ∃ way g p name, Path.way? f.ownBytes path = some way ∧ f.makeWay [] way = (g, some p) ∧
      Path.name? g.ownBytes path = some name ∧ g.get? (name :: p) ≠ some .folder ∧
      f' = g.set (name :: p) (.file bytes) := by
  unfold write at h
  split at h
  · cases h
  · next way hway =>
    split at h
    · cases h
    · next g p hmake =>
      split at h
      · next place hplace =>
        obtain ⟨name, hname, hfile⟩ := Option.bind_eq_some_iff.mp hplace
        obtain ⟨hallowed, hplace⟩ := Option.ite_none_right_eq_some.mp hfile
        obtain rfl := Option.some.inj hplace
        rw [Bool.and_eq_true, Bool.not_eq_true'] at hallowed
        refine ⟨way, g, p, name, hway, hmake, hname, ?_, (Prod.mk.inj h).1.symm⟩
        intro hfolder
        rw [isFolder_iff.mpr hfolder] at hallowed
        exact absurd hallowed.2 (by decide)
      · cases h

/-- A file that was written has the bytes it was written with. -/
theorem read_of_write (h : f.write path bytes = (f', .ok ())) : f'.read path = .ok bytes := by
  obtain ⟨way, g, p, name, hway, hmake, hname, hfile, rfl⟩ := exists_of_write h
  have hown : g.ownBytes = f.ownBytes := by simpa [hmake] using ownBytes_makeWay f [] way
  rw [← hown] at hway
  have hfollow : (g.set (name :: p) (.file bytes)).follow? [] way = some p :=
    follow?_of_keeps (keeps_set (.inl hfile)) (follow?_of_makeWay hmake)
  have hget := get?_set_self (f := g) (e := .file bytes) (List.cons_ne_nil name p)
  simp [read, hway, hname, hfollow, hget]

theorem readLines_of_writeLines {lines : List String}
    (h : f.writeLines path lines = (f', .ok ())) :
    f'.readLines path =
      .ok ((Text.Lines.split (Text.Lines.join (lines.map String.toList))).map String.ofList) := by
  simp only [readLines, read_of_write h, bind, Except.bind, Text.Lines.decode?_encode]

/-! ## lines -/

/-- Lines come back from the bytes they are written as if and only if no line has a
line feed in it and none ends with a carriage return; so do the names of a
shortlist from the file that it was stored in.  The other way round, a text is
given back by the lines that are read from it if and only if it is empty or ends
with a line feed, and has no carriage return before a line feed. -/
theorem line_files_round_trip :
    (∀ lines : List String, ∃ back,
      Text.Lines.decode? (Text.Lines.encode lines) = some back ∧
      (back = lines ↔ ∀ l ∈ lines, '\n' ∉ l.toList ∧ l.toList.getLast? ≠ some '\r')) ∧
    (∀ (f f' : Folder) (path : String) (l : Shortlist),
      l.exportTo f.writeLines path = (f', .ok ()) → ∃ back,
        f'.readLines path = .ok back ∧
        (back = l.names ↔ ∀ g ∈ l, '\n' ∉ g.name.toList ∧ g.name.toList.getLast? ≠ some '\r')) ∧
    ∀ t : String, ∃ lines,
      Text.Lines.decode? t.toUTF8 = some lines ∧
      (Text.Lines.encode lines = t.toUTF8 ↔
        (t = "" ∨ t.toList.getLast? = some '\n') ∧
          ¬ ∃ before after, t.toList = before ++ '\r' :: '\n' :: after) := by
  have hback : ∀ lines : List String,
      (Text.Lines.split (Text.Lines.join (lines.map String.toList))).map String.ofList = lines ↔
        ∀ l ∈ lines, '\n' ∉ l.toList ∧ l.toList.getLast? ≠ some '\r' := by
    intro lines
    rw [Text.Lines.map_ofList_eq_iff, Text.Lines.split_join_iff]
    simp [Text.Lines.plain_iff]
  refine ⟨fun lines => ⟨_, Text.Lines.decode?_encode lines, hback lines⟩, ?_, ?_⟩
  · intro f f' path l h
    refine ⟨_, readLines_of_writeLines h, (hback l.names).trans ?_⟩
    constructor
    · exact fun hall g hg => hall g.name (Shortlist.mem_names.mpr ⟨g, hg, rfl⟩)
    · intro hall n hn
      obtain ⟨g, hg, rfl⟩ := Shortlist.mem_names.mp hn
      exact hall g hg
  · intro t
    refine ⟨_, Text.Lines.decode?_toUTF8 t, ?_⟩
    rw [Text.Lines.encode_eq_toUTF8_iff, Text.Lines.join_split_iff, Text.Lines.closed_iff,
      String.toList_eq_nil_iff]
    rfl

/-- A shortlist whose names have carriage returns in them, but not at the end,
stored in a folder that is not there yet. -/
theorem line_files_round_trip_in_new_folder :
    let l := (∅ : Shortlist).insertAll [{ name := "Go" }, { name := "a\rb" }]
    ∃ f' back, l.exportTo (∅ : Folder).writeLines "lists/./games.txt" = (f', .ok ()) ∧
      f'.readLines "lists/./games.txt" = .ok back ∧ back = l.names := by
  intro l
  have hwrite : ∃ f', l.exportTo (∅ : Folder).writeLines "lists/./games.txt" = (f', .ok ()) :=
    ⟨_, rfl⟩
  obtain ⟨f', hf'⟩ := hwrite
  obtain ⟨back, hread, hiff⟩ := line_files_round_trip.2.1 ∅ f' "lists/./games.txt" l hf'
  exact ⟨f', back, hf', hread, hiff.mpr (by decide)⟩

end GameNight.Folder
