import GameNight.Text.Blank
import Mathlib.Data.List.TakeWhile

/-!
# GameNight.Proofs.Text.Trimming

What trimming does to a text.

A text is white space, what trimming leaves, and white space again
(`exists_blank_trim_blank`); what is left neither begins nor ends with white
space, and white space put around a text has no influence on it (`trim_blank`).
A text can be taken apart in this way only once, if anything is left of it
(`eq_of_blank_trimmed_blank`).
-/

namespace GameNight.Text

/-! ## blank and trimmed texts -/

/-- Text with nothing but white space in it, if anything at all. -/
def Blank (cs : List Char) : Prop := ∀ c ∈ cs, isBlank c = true

/-- Text that neither begins nor ends with white space. -/
structure Trimmed (cs : List Char) : Prop where
  head : ∀ c ∈ cs.head?, isBlank c = false
  last : ∀ c ∈ cs.getLast?, isBlank c = false

-- Both are tested on the characters of the text: a quantifier over characters has an
-- instance of its own, which tries every character there is.

instance (cs : List Char) : Decidable (Blank cs) :=
  decidable_of_iff (cs.all isBlank = true) List.all_eq_true

instance (cs : List Char) : Decidable (Trimmed cs) :=
  decidable_of_iff ((cs.head?.all (!isBlank ·) && cs.getLast?.all (!isBlank ·)) = true) <| by
    simp only [Bool.and_eq_true, Option.all_eq_true, Bool.not_eq_true']
    exact ⟨fun h => ⟨h.1, h.2⟩, fun h => ⟨h.head, h.last⟩⟩

theorem blank_nil : Blank [] := fun _ h => absurd h List.not_mem_nil

theorem Blank.append {as bs : List Char} (ha : Blank as) (hb : Blank bs) : Blank (as ++ bs) := by
  intro c hc
  rcases List.mem_append.mp hc with hc | hc
  · exact ha c hc
  · exact hb c hc

theorem Blank.reverse {cs : List Char} (h : Blank cs) : Blank cs.reverse :=
  fun c hc => h c (List.mem_reverse.mp hc)

/-- Whatever stands between two trimmed texts, the whole is trimmed. -/
theorem Trimmed.append {as bs : List Char} (ha : Trimmed as) (hb : Trimmed bs) (hane : as ≠ [])
    (hbne : bs ≠ []) (mid : List Char) : Trimmed (as ++ mid ++ bs) where
  head := by
    obtain ⟨a, as, rfl⟩ := List.exists_cons_of_ne_nil hane
    simpa using ha.head
  last := by
    have hlast := List.getLast?_eq_some_getLast hbne
    rw [List.getLast?_append, hlast, Option.some_or, ← hlast]
    exact hb.last

/-! ## one end -/

theorem trimStart_blank {as : List Char} (h : Blank as) (cs : List Char) :
    trimStart (as ++ cs) = trimStart cs :=
  List.dropWhile_append_of_pos h

theorem trimStart_eq_self {cs : List Char} (h : ∀ c ∈ cs.head?, isBlank c = false) :
    trimStart cs = cs := by
  cases cs with
  | nil => rfl
  | cons c cs => simp [trimStart, h c rfl]

theorem exists_blank_trimStart (cs : List Char) : ∃ as, Blank as ∧ cs = as ++ trimStart cs :=
  ⟨cs.takeWhile isBlank, fun _ hc => List.mem_takeWhile_imp hc,
    List.takeWhile_append_dropWhile.symm⟩

theorem head_trimStart (cs : List Char) : ∀ c ∈ (trimStart cs).head?, isBlank c = false := by
  intro c hc
  obtain ⟨r, hr⟩ := List.head?_eq_some_iff.mp hc
  exact isBlank_head_of_trimStart hr

/-- Trimming the end of a text is trimming the start of it read backwards. -/
theorem trimEnd_eq (cs : List Char) : trimEnd cs = (trimStart cs.reverse).reverse := rfl

theorem trimEnd_blank {bs : List Char} (h : Blank bs) (cs : List Char) :
    trimEnd (cs ++ bs) = trimEnd cs := by
  rw [trimEnd_eq, List.reverse_append, trimStart_blank h.reverse, trimEnd_eq]

theorem trimEnd_eq_self {cs : List Char} (h : ∀ c ∈ cs.getLast?, isBlank c = false) :
    trimEnd cs = cs := by
  rw [trimEnd_eq, trimStart_eq_self (by simpa using h), List.reverse_reverse]

theorem exists_trimEnd_blank (cs : List Char) : ∃ bs, Blank bs ∧ cs = trimEnd cs ++ bs := by
  obtain ⟨as, has, h⟩ := exists_blank_trimStart cs.reverse
  refine ⟨as.reverse, has.reverse, ?_⟩
  rw [trimEnd_eq, ← List.reverse_append, ← h, List.reverse_reverse]

theorem last_trimEnd (cs : List Char) : ∀ c ∈ (trimEnd cs).getLast?, isBlank c = false := by
  rw [trimEnd_eq, List.getLast?_reverse]
  exact head_trimStart _

/-! ## both ends -/

theorem trim_eq_self {cs : List Char} (h : Trimmed cs) : trim cs = cs := by
  rw [trim, trimStart_eq_self h.head, trimEnd_eq_self h.last]

/-- Text is white space, what trimming leaves, and white space. -/
theorem exists_blank_trim_blank (cs : List Char) :
    ∃ as bs, Blank as ∧ Blank bs ∧ cs = as ++ trim cs ++ bs := by
  obtain ⟨as, has, hstart⟩ := exists_blank_trimStart cs
  obtain ⟨bs, hbs, hend⟩ := exists_trimEnd_blank (trimStart cs)
  exact ⟨as, bs, has, hbs, by rw [trim, List.append_assoc, ← hend, ← hstart]⟩

theorem trimmed_trim (cs : List Char) : Trimmed (trim cs) where
  head := by
    obtain ⟨bs, -, h⟩ := exists_trimEnd_blank (trimStart cs)
    intro c hc
    apply head_trimStart cs
    rw [h, List.head?_append, show (trimEnd (trimStart cs)).head? = some c from hc]
    rfl
  last := last_trimEnd _

@[simp] theorem trim_trim (cs : List Char) : trim (trim cs) = trim cs :=
  trim_eq_self (trimmed_trim cs)

/-- White space around a text is trimmed away with its own. -/
theorem trim_blank {as bs : List Char} (ha : Blank as) (hb : Blank bs) (cs : List Char) :
    trim (as ++ cs ++ bs) = trim cs := by
  have hstart : trimStart (cs ++ bs) = trimStart cs ++ bs ∨
      trimStart (cs ++ bs) = [] ∧ trimStart cs = [] := by
    rw [trimStart, trimStart, List.dropWhile_append]
    split
    · next h => exact .inr ⟨List.dropWhile_eq_nil_iff.mpr hb, List.isEmpty_iff.mp h⟩
    · exact .inl rfl
  rw [trim, trim, List.append_assoc, trimStart_blank ha]
  rcases hstart with h | ⟨h, h'⟩
  · rw [h, trimEnd_blank hb]
  · rw [h, h']

/-- The white space before a trimmed text ends where that text begins. -/
theorem takeWhile_isBlank {as cs : List Char} (ha : Blank as) (hc : Trimmed cs) (hne : cs ≠ [])
    (bs : List Char) : (as ++ cs ++ bs).takeWhile isBlank = as := by
  obtain ⟨c, cs, rfl⟩ := List.exists_cons_of_ne_nil hne
  rw [List.append_assoc, List.takeWhile_append_of_pos ha]
  simp [hc.head c rfl]

/-- There is only one way to take a text apart into white space, a trimmed text
that is not empty, and white space. -/
theorem eq_of_blank_trimmed_blank {as cs bs as' cs' bs' : List Char} (ha : Blank as)
    (hb : Blank bs) (ha' : Blank as') (hb' : Blank bs') (hc : Trimmed cs) (hc' : Trimmed cs')
    (hne : cs ≠ []) (h : as ++ cs ++ bs = as' ++ cs' ++ bs') : as = as' ∧ cs = cs' ∧ bs = bs' := by
  obtain rfl : cs = cs' := by
    rw [← trim_eq_self hc, ← trim_blank ha hb, h, trim_blank ha' hb', trim_eq_self hc']
  obtain rfl : as = as' := by
    rw [← takeWhile_isBlank ha hc hne bs, h, takeWhile_isBlank ha' hc hne bs']
  exact ⟨rfl, rfl, List.append_cancel_left h⟩

end GameNight.Text
