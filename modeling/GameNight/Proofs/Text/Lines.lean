import GameNight.Proofs.Text.Bytes
import GameNight.Text.Lines

/-!
# GameNight.Proofs.Text.Lines

Lines that survive a file, and files that survive being read as lines.

Reading takes a text apart line by line, and a line feed with what is before it
can be taken off at any place where a line begins (`split_cons_line`).

* `split_join` — what is read of joined lines: they themselves, each without a
  carriage return at its end;
* `split_join_iff` — the lines that come back are the plain ones, all of them;
* `join_split_iff` — the texts that come back are those that end with a line
  feed and have no carriage return before one;
* `decode?_encode`, `decode?_toUTF8` — the same in bytes, which always are text.
-/

namespace GameNight.Text.Lines

/-! ## single lines -/

/-- A line as it is read. -/
def chop (l : List Char) : List Char := (dropReturn l.reverse).reverse

theorem chop_concat_return (l : List Char) : chop (l ++ ['\r']) = l := by
  simp [chop, dropReturn]

/-- What is chopped off is a carriage return, if anything. -/
theorem chop_cases (l : List Char) : chop l = l ∨ l = chop l ++ ['\r'] := by
  unfold chop dropReturn
  split
  · next cs hl =>
    right
    rw [← List.reverse_cons, ← hl, List.reverse_reverse]
  · exact .inl (List.reverse_reverse l)

theorem chop_eq_self_iff {l : List Char} : chop l = l ↔ l.getLast? ≠ some '\r' := by
  constructor
  · intro h hlast
    obtain ⟨m, rfl⟩ := List.getLast?_eq_some_iff.mp hlast
    rw [chop_concat_return] at h
    simpa using congrArg List.length h
  · intro h
    refine (chop_cases l).resolve_right fun he => h ?_
    rw [he, List.getLast?_concat]

theorem mem_of_mem_chop {l : List Char} {c : Char} (h : c ∈ chop l) : c ∈ l := by
  rcases chop_cases l with he | he
  · rwa [he] at h
  · rw [he]
    exact List.mem_append_left _ h

/-! ## reading -/

/-- A line ends at the first line feed after it. -/
theorem splitAfter_append {l : List Char} (h : '\n' ∉ l) (line rest : List Char) :
    splitAfter line (l ++ '\n' :: rest) = chop (line.reverse ++ l) :: split rest := by
  induction l generalizing line with
  | nil => simp [splitAfter, chop, split]
  | cons c l ih =>
    have hc : c ≠ '\n' := fun e => h (by simp [e])
    have hl : '\n' ∉ l := fun e => h (by simp [e])
    rw [List.cons_append, splitAfter, if_neg hc, ih hl, List.reverse_cons, List.append_assoc,
      List.singleton_append]

theorem split_cons_line {l : List Char} (h : '\n' ∉ l) (rest : List Char) :
    split (l ++ '\n' :: rest) = chop l :: split rest :=
  splitAfter_append h [] rest

/-- No line has a line feed in it. -/
theorem notMem_of_mem_splitAfter {line cs l : List Char} (hline : '\n' ∉ line)
    (h : l ∈ splitAfter line cs) : '\n' ∉ l := by
  fun_induction splitAfter line cs with
  | case1 => exact absurd h List.not_mem_nil
  | case2 line hne =>
    obtain rfl := List.mem_singleton.mp h
    simpa using hline
  | case3 line cs ih =>
    rcases List.mem_cons.mp h with rfl | h
    · intro hmem
      apply hline
      rw [← List.mem_reverse]
      apply mem_of_mem_chop
      rwa [chop, List.reverse_reverse]
    · exact ih List.not_mem_nil h
  | case4 line c cs hc ih => exact ih (by simpa [hline] using Ne.symm hc) h

/-! ## lines, written and read -/

@[simp] theorem join_nil : join [] = [] := rfl

@[simp] theorem join_cons (l : List Char) (ls : List (List Char)) :
    join (l :: ls) = l ++ '\n' :: join ls := by
  simp [join]

theorem split_join {ls : List (List Char)} (h : ∀ l ∈ ls, '\n' ∉ l) :
    split (join ls) = ls.map chop := by
  induction ls with
  | nil => rfl
  | cons l ls ih =>
    rw [join_cons, split_cons_line (h l List.mem_cons_self),
      ih fun m hm => h m (List.mem_cons_of_mem l hm), List.map_cons]

/-- Lines that come back from a file as they were written. -/
structure Plain (l : List Char) : Prop where
  no_feed : '\n' ∉ l
  no_return : l.getLast? ≠ some '\r'

theorem plain_iff {l : List Char} : Plain l ↔ '\n' ∉ l ∧ l.getLast? ≠ some '\r' :=
  ⟨fun h => ⟨h.no_feed, h.no_return⟩, fun h => ⟨h.1, h.2⟩⟩

theorem split_join_iff {ls : List (List Char)} : split (join ls) = ls ↔ ∀ l ∈ ls, Plain l := by
  constructor
  · intro h l hl
    have hfeed : ∀ m ∈ ls, '\n' ∉ m := fun m hm =>
      notMem_of_mem_splitAfter List.not_mem_nil (h.symm ▸ hm)
    rw [split_join hfeed] at h
    have hchop : ∀ m ∈ ls, chop m = id m := List.map_inj_left.mp (by rwa [List.map_id])
    exact ⟨hfeed l hl, chop_eq_self_iff.mp (hchop l hl)⟩
  · intro h
    rw [split_join fun l hl => (h l hl).no_feed]
    calc
      ls.map chop = ls.map id :=
        List.map_inj_left.mpr fun l hl => chop_eq_self_iff.mpr (h l hl).no_return
      _ = ls := List.map_id ls

/-! ## texts, read and written -/

/-- Text with a carriage return right before a line feed. -/
def HasReturnFeed (cs : List Char) : Prop := ∃ before after, cs = before ++ '\r' :: '\n' :: after

/-- Such a pair ends the first line of a text or comes after it. -/
theorem hasReturnFeed_append_iff {l : List Char} (h : '\n' ∉ l) (rest : List Char) :
    HasReturnFeed (l ++ '\n' :: rest) ↔ l.getLast? = some '\r' ∨ HasReturnFeed rest := by
  constructor
  · rintro ⟨before, after, he⟩
    rcases List.append_eq_append_iff.mp he with ⟨m, hbefore, hm⟩ | ⟨m, rfl, hm⟩
    · -- the first line feed of the text is not the one of the pair
      cases m with
      | nil => exact absurd (List.cons.inj hm).1 (by decide)
      | cons c m =>
        obtain ⟨-, rfl⟩ := List.cons.inj hm
        exact .inr ⟨m, after, rfl⟩
    · cases m with
      | nil => exact absurd (List.cons.inj hm).1 (by decide)
      | cons c m =>
        obtain ⟨rfl, hm⟩ := List.cons.inj hm
        cases m with
        | nil => exact .inl (by simp)
        | cons d m =>
          obtain ⟨rfl, -⟩ := List.cons.inj (List.cons.inj hm).2
          exact absurd h (by simp)
  · rintro (hlast | ⟨before, after, rfl⟩)
    · obtain ⟨m, rfl⟩ := List.getLast?_eq_some_iff.mp hlast
      exact ⟨m, rest, by simp⟩
    · exact ⟨l ++ '\n' :: before, after, by simp⟩

/-- Text that comes back from its lines as it was. -/
structure Closed (cs : List Char) : Prop where
  ends : cs = [] ∨ cs.getLast? = some '\n'
  no_pair : ¬ HasReturnFeed cs

theorem closed_iff {cs : List Char} :
    Closed cs ↔ (cs = [] ∨ cs.getLast? = some '\n') ∧ ¬ HasReturnFeed cs :=
  ⟨fun h => ⟨h.ends, h.no_pair⟩, fun h => ⟨h.1, h.2⟩⟩

theorem closed_append_iff {l : List Char} (h : '\n' ∉ l) (rest : List Char) :
    Closed (l ++ '\n' :: rest) ↔ l.getLast? ≠ some '\r' ∧ Closed rest := by
  have hends : (l ++ '\n' :: rest = [] ∨ (l ++ '\n' :: rest).getLast? = some '\n') ↔
      (rest = [] ∨ rest.getLast? = some '\n') := by
    rcases List.eq_nil_or_concat rest with rfl | ⟨front, c, rfl⟩
    · simp
    · simp [List.getLast?_append, List.getLast?_cons]
  constructor
  · rintro ⟨he, hp⟩
    rw [hasReturnFeed_append_iff h, not_or] at hp
    exact ⟨hp.1, hends.mp he, hp.2⟩
  · rintro ⟨hlast, he, hp⟩
    exact ⟨hends.mpr he, by rw [hasReturnFeed_append_iff h, not_or]; exact ⟨hlast, hp⟩⟩

/-- The text that begins with an open line, given last character first.  The
induction follows the reader, so the open line grows until its line feed. -/
theorem join_splitAfter_iff {line cs : List Char} (hline : '\n' ∉ line) :
    join (splitAfter line cs) = line.reverse ++ cs ↔ Closed (line.reverse ++ cs) := by
  fun_induction splitAfter line cs with
  | case1 =>
    have hnil : Closed [] := ⟨.inl rfl, fun ⟨before, after, he⟩ => by simp at he⟩
    simpa using hnil
  | case2 line hne =>
    -- the last line has no line feed to end it
    constructor
    · intro h
      simpa using congrArg List.length h
    · rintro ⟨he, -⟩
      rcases he with he | he
      · simp [hne] at he
      · rw [List.append_nil] at he
        exact absurd (List.mem_reverse.mp (List.mem_of_getLast? he)) hline
  | case3 line cs ih =>
    have hfree : '\n' ∉ line.reverse := by simpa using hline
    have ih : join (split cs) = cs ↔ Closed cs := by simpa [split] using ih List.not_mem_nil
    have hchop : (dropReturn line).reverse = chop line.reverse := by
      rw [chop, List.reverse_reverse]
    change join ((dropReturn line).reverse :: split cs) = _ ↔ _
    rw [closed_append_iff hfree, ← ih, ← chop_eq_self_iff, join_cons, hchop]
    constructor
    · intro h
      rcases chop_cases line.reverse with hl | hl
      · rw [hl] at h
        exact ⟨hl, (List.cons.inj (List.append_cancel_left h)).2⟩
      · -- otherwise a carriage return would stand where a line feed does
        rw [hl, chop_concat_return, List.append_assoc] at h
        exact absurd (List.cons.inj (List.append_cancel_left h)).1 (by decide)
    · rintro ⟨hl, hrest⟩
      rw [hl, hrest]
  | case4 line c cs hc ih =>
    have hgrown : '\n' ∉ c :: line := by simpa [hline] using Ne.symm hc
    simpa using ih hgrown

theorem join_split_iff {cs : List Char} : join (split cs) = cs ↔ Closed cs :=
  join_splitAfter_iff List.not_mem_nil

/-! ## bytes -/

theorem decode?_toUTF8 (t : String) :
    decode? t.toUTF8 = some ((split t.toList).map String.ofList) := by
  rw [decode?, fromUTF8?_toUTF8]
  rfl

theorem decode?_encode (lines : List String) :
    decode? (encode lines) =
      some ((split (join (lines.map String.toList))).map String.ofList) := by
  rw [encode, decode?_toUTF8, String.toList_ofList]

theorem map_ofList_eq_iff {ls : List (List Char)} {lines : List String} :
    ls.map String.ofList = lines ↔ ls = lines.map String.toList := by
  constructor
  · rintro rfl
    simp
  · rintro rfl
    simp

theorem encode_eq_toUTF8_iff {ls : List (List Char)} {t : String} :
    encode (ls.map String.ofList) = t.toUTF8 ↔ join ls = t.toList := by
  rw [encode, List.map_map]
  constructor
  · intro h
    have hread := congrArg String.fromUTF8? h
    rw [fromUTF8?_toUTF8, fromUTF8?_toUTF8, Option.some.injEq] at hread
    simpa using congrArg String.toList hread
  · intro h
    simp [h]

end GameNight.Text.Lines
