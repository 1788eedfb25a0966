import GameNight.Json.Reader
import GameNight.Proofs.Json.Numeral
import GameNight.Proofs.Json.Quoted
import Mathlib.Data.List.Chain
import Mathlib.Data.List.TakeWhile

/-!
# GameNight.Proofs.Json.Reader

The written form of a JSON value is read as the value.

A token is scanned again where it was written, provided that after a number something else follows
than a number (`scan?_render`).  The tokens of a value never have two numbers side by side, so a
written value is taken apart into its tokens, with or without blanks around them
(`Token.Spaced.scanAll?_eq`).  The reader then puts the tokens
together: whatever is open around a value, after its tokens the reader has the value and the same
is open (`run_tokens`).
-/

namespace GameNight.Json

open Reader (State Frame Await)

namespace Token

/-! ## one token -/

/-- A number of the rules, or no number. -/
def WellFormed : Token → Prop
  | .number n => n.WellFormed
  | _ => True

def isNumber : Token → Bool
  | .number _ => true
  | _ => false

/-- Two tokens that may stand side by side: not two numbers. -/
def Apart (t u : Token) : Prop := t.isNumber = false ∨ u.isNumber = false

theorem scan?_text {cs rest : List Char} :
    scan? (Quoted.encode cs ++ rest) = some (.text (some cs), rest) := by
  have hencode : Quoted.encode cs ++ rest =
      '"' :: (cs.flatMap Quoted.encodeChar ++ '"' :: rest) := by simp [Quoted.encode]
  rw [hencode, scan?, show mark? '"' = none by decide]
  simp [Quoted.scan?_encode, Quoted.join?_pieces]

theorem scan?_noText (rest : List Char) :
    scan? (render (.text none) ++ rest) = some (.text none, rest) := by
  have hscan : Quoted.scan? ('\\' :: 'u' :: 'd' :: '8' :: '0' :: '0' :: '"' :: rest) =
      some ([.unit 0xD800], rest) := rfl
  simp only [render, List.cons_append, List.nil_append, scan?, show mark? '"' = none by decide,
    hscan, if_true, Option.map_some]
  rfl

theorem mark?_of_isDigit {c : Char} (h : c.isDigit = true) : mark? c = none := by
  have hne : ∀ d : Char, d.isDigit = false → c ≠ d := by
    rintro d hd rfl
    rw [h] at hd
    cases hd
  simp [mark?, hne '[' rfl, hne ']' rfl, hne '\x7b' rfl, hne '\x7d' rfl, hne ',' rfl, hne ':' rfl]

theorem scan?_number {n : Numeral} {rest : List Char} (h : n.WellFormed)
    (hrest : Numeral.Stops rest) : scan? (n.render ++ rest) = some (.number n, rest) := by
  obtain ⟨c, cs, hc, hfirst⟩ := Numeral.head?_render h
  have hscan := Numeral.scan?_render h hrest
  rw [hc, List.cons_append] at hscan ⊢
  have hmark : mark? c = none := by
    rcases hfirst with rfl | hdigit
    · decide
    · exact mark?_of_isDigit hdigit
  have hquote : c ≠ '"' := by
    rintro rfl
    exact hfirst.elim (by decide) (by decide)
  rw [scan?, hmark]
  simp only [if_neg hquote, if_pos hfirst, hscan, Option.map_some]

/-- A written token is scanned again. -/
theorem scan?_render {t : Token} {rest : List Char} (h : t.WellFormed)
    (hrest : t.isNumber = true → Numeral.Stops rest) :
    scan? (t.render ++ rest) = some (t, rest) := by
  cases t with
  | number n => exact scan?_number h (hrest rfl)
  | text s =>
    cases s with
    | none => exact scan?_noText rest
    | some cs => exact scan?_text
  | bool b => cases b <;> simp [render, scan?, mark?, scanWord?, words]
  | null => simp [render, scan?, mark?, scanWord?, words]
  | openArray => rfl
  | closeArray => rfl
  | openObject => rfl
  | closeObject => rfl
  | comma => rfl
  | colon => rfl

/-- No written token begins with a blank, and none but a number goes on with a number. -/
theorem head?_render {t : Token} (h : t.WellFormed) :
    ∃ c cs, t.render = c :: cs ∧ isBlank c = false ∧
      (t.isNumber = false → ∀ rest, Numeral.Stops (c :: rest)) := by
  have hstops : ∀ c : Char, (c.isDigit = false ∧ c ≠ '.' ∧ c ≠ 'e' ∧ c ≠ 'E') →
      ∀ rest, Numeral.Stops (c :: rest) := by
    rintro c hc rest d ⟨⟩
    exact hc
  cases t with
  | number n =>
    obtain ⟨c, cs, hc, hfirst⟩ := Numeral.head?_render h
    refine ⟨c, cs, hc, ?_, fun hn => by cases hn⟩
    have hne : ∀ d : Char, (d ≠ '-' ∧ d.isDigit = false) → c ≠ d := by
      rintro d ⟨hminus, hdigit⟩ rfl
      rcases hfirst with h | h
      · exact hminus h
      · rw [h] at hdigit
        cases hdigit
    simp [isBlank, hne ' ' (by decide), hne '\t' (by decide), hne '\n' (by decide),
      hne '\r' (by decide)]
  | text s => cases s <;> exact ⟨_, _, rfl, by decide, fun _ => hstops _ (by decide)⟩
  | bool b => cases b <;> exact ⟨_, _, rfl, by decide, fun _ => hstops _ (by decide)⟩
  | _ => exact ⟨_, _, rfl, by decide, fun _ => hstops _ (by decide)⟩

/-! ## tokens side by side -/

/-- Tokens as a text: one written after the other, with blanks before, between and after them
or without. -/
inductive Spaced : List Token → List Char → Prop where
  | nil {bs : List Char} (hbs : ∀ c ∈ bs, isBlank c = true) : Spaced [] bs
  | cons {t : Token} {ts : List Token} {bs cs : List Char} (hbs : ∀ c ∈ bs, isBlank c = true)
      (h : Spaced ts cs) : Spaced (t :: ts) (bs ++ (t.render ++ cs))

/-- Tokens may be written without blanks. -/
theorem spaced_render (ts : List Token) : Spaced ts (ts.flatMap render) := by
  induction ts with
  | nil => exact .nil fun c hc => absurd hc List.not_mem_nil
  | cons t ts ih => exact @Spaced.cons t ts [] _ (fun c hc => absurd hc List.not_mem_nil) ih

/-- No number goes on with a blank. -/
theorem stops_blank {c : Char} (hc : isBlank c = true) (cs : List Char) :
    Numeral.Stops (c :: cs) := by
  rintro d ⟨⟩
  simp only [isBlank, Bool.or_eq_true, beq_iff_eq] at hc
  rcases hc with ((rfl | rfl) | rfl) | rfl <;> decide

/-- No number goes on with tokens of which the first is none. -/
theorem Spaced.stops {ts : List Token} {cs : List Char} (h : Spaced ts cs)
    (hwell : ∀ t ∈ ts, t.WellFormed) (hts : ∀ t ∈ ts.head?, t.isNumber = false) :
    Numeral.Stops cs := by
  cases h with
  | nil hbs =>
    cases cs with
    | nil => exact fun c hc => by cases hc
    | cons b bs => exact stops_blank (hbs b List.mem_cons_self) bs
  | @cons t ts bs cs hbs h =>
    cases bs with
    | nil =>
      obtain ⟨c, rest, hc, -, hstops⟩ := head?_render (hwell t List.mem_cons_self)
      rw [List.nil_append, hc]
      exact hstops (hts t rfl) _
    | cons b bs => exact stops_blank (hbs b List.mem_cons_self) _

theorem scanAll?_of_scan? {bs cs rest : List Char} {t : Token} (hbs : ∀ c ∈ bs, isBlank c = true)
    (hblank : cs.dropWhile isBlank = cs) (h : scan? cs = some (t, rest)) :
    scanAll? (bs ++ cs) = (scanAll? rest).map (t :: ·) := by
  have hdrop : (bs ++ cs).dropWhile isBlank = cs := by
    rw [List.dropWhile_append_of_pos hbs, hblank]
  have hne : cs ≠ [] := by
    rintro rfl
    cases h
  rw [← hdrop] at h hne
  rw [scanAll?, if_neg hne]
  split
  · next hnone =>
    rw [h] at hnone
    cases hnone
  · next hsome =>
    rw [h] at hsome
    obtain ⟨rfl, rfl⟩ := Prod.mk.inj (Option.some.inj hsome)
    rfl

/-- Written tokens without two numbers side by side are taken apart again, whatever blanks are
around them. -/
theorem Spaced.scanAll?_eq {ts : List Token} {cs : List Char} (h : Spaced ts cs)
    (hwell : ∀ t ∈ ts, t.WellFormed) (hchain : ts.IsChain Apart) : scanAll? cs = some ts := by
  induction h with
  | nil hbs => rw [scanAll?, if_pos (List.dropWhile_eq_nil_iff.mpr hbs)]
  | @cons t ts bs cs hbs h ih =>
    have hthis := hwell t List.mem_cons_self
    have hlater : ∀ u ∈ ts, u.WellFormed := fun u hu => hwell u (List.mem_cons_of_mem t hu)
    have hstops : t.isNumber = true → Numeral.Stops cs := by
      intro hnumber
      refine h.stops hlater fun u hu => ?_
      obtain ⟨us, rfl⟩ := List.head?_eq_some_iff.mp hu
      exact (List.isChain_cons_cons.mp hchain).1.resolve_left (by simp [hnumber])
    obtain ⟨c, rest, hc, hblank, -⟩ := head?_render hthis
    have hdrop : (t.render ++ cs).dropWhile isBlank = t.render ++ cs := by
      rw [hc, List.cons_append, List.dropWhile_cons_of_neg (by simp [hblank])]
    rw [scanAll?_of_scan? hbs hdrop (scan?_render hthis hstops), ih hlater hchain.tail,
      Option.map_some]

end Token

/-! ## the tokens of a value -/

section

variable {t : Token} {ts us : List Token}

theorem isChain_cons (ht : t.isNumber = false) (h : ts.IsChain Token.Apart) :
    (t :: ts).IsChain Token.Apart := by
  cases ts with
  | nil => exact .singleton t
  | cons u us => exact .cons_cons (.inl ht) h

theorem isChain_append (hts : ts.IsChain Token.Apart)
    (hus : us.IsChain Token.Apart) (hu : ∀ u ∈ us.head?, u.isNumber = false) :
    (ts ++ us).IsChain Token.Apart := by
  rw [List.isChain_append]
  exact ⟨hts, hus, fun t _ u hmem => .inr (hu u hmem)⟩

end

theorem head?_laterElements (xs : List Json) :
    ∀ t ∈ (laterElements xs).head?, t.isNumber = false := by
  cases xs <;> (rintro t ⟨⟩; rfl)

theorem head?_laterMembers (ms : List Member) :
    ∀ t ∈ (laterMembers ms).head?, t.isNumber = false := by
  rcases ms with _ | ⟨⟨k, x⟩, ms⟩ <;> (rintro t ⟨⟩; rfl)

mutual

theorem isChain_tokens : (x : Json) → x.tokens.IsChain Token.Apart
  | .null | .bool _ | .number _ | .text _ => .singleton _
  | .array xs => isChain_cons rfl (isChain_firstElement xs)
  | .object ms => isChain_cons rfl (isChain_firstMember ms)

theorem isChain_firstElement : (xs : List Json) → (firstElement xs).IsChain Token.Apart
  | [] => .singleton _
  | x :: xs =>
    isChain_append (isChain_tokens x) (isChain_laterElements xs) (head?_laterElements xs)

theorem isChain_laterElements : (xs : List Json) → (laterElements xs).IsChain Token.Apart
  | [] => .singleton _
  | x :: xs => isChain_cons rfl
    (isChain_append (isChain_tokens x) (isChain_laterElements xs) (head?_laterElements xs))

theorem isChain_firstMember : (ms : List Member) → (firstMember ms).IsChain Token.Apart
  | [] => .singleton _
  | (_, x) :: ms => isChain_cons rfl (isChain_cons rfl
    (isChain_append (isChain_tokens x) (isChain_laterMembers ms) (head?_laterMembers ms)))

theorem isChain_laterMembers : (ms : List Member) → (laterMembers ms).IsChain Token.Apart
  | [] => .singleton _
  | (_, x) :: ms => isChain_cons rfl (isChain_cons rfl (isChain_cons rfl
    (isChain_append (isChain_tokens x) (isChain_laterMembers ms) (head?_laterMembers ms))))

end

/-! ## putting tokens together -/

/-- The first token of a value closes nothing. -/
theorem exists_tokens_eq (x : Json) : ∃ t ts, x.tokens = t :: ts ∧ t ≠ .closeArray := by
  cases x <;> exact ⟨_, _, rfl, by simp⟩

theorem step_firstElement {t : Token} (h : t ≠ .closeArray) (frames : List Frame) :
    (⟨.firstElement, frames⟩ : State).step t = (⟨.value, .array [] :: frames⟩ : State).step t := by
  cases t <;> first | rfl | contradiction

/-- An element is expected after an opening bracket as after a comma. -/
theorem run_firstElement_tokens (x : Json) (frames : List Frame) (ts : List Token) :
    (⟨.firstElement, frames⟩ : State).run (x.tokens ++ ts) =
      (⟨.value, .array [] :: frames⟩ : State).run (x.tokens ++ ts) := by
  obtain ⟨t, us, hx, ht⟩ := exists_tokens_eq x
  rw [hx, List.cons_append, State.run, State.run, step_firstElement ht]

mutual

/-- After the tokens of a value the reader has the value, and what was open is open. -/
theorem run_tokens : (x : Json) → (frames : List Frame) → (ts : List Token) →
    (⟨.value, frames⟩ : State).run (x.tokens ++ ts) = (⟨.next x, frames⟩ : State).run ts
  | .null, _, _ | .bool _, _, _ | .number _, _, _ | .text _, _, _ => rfl
  | .array xs, frames, ts => run_firstElement xs frames ts
  | .object ms, frames, ts => run_firstMember ms frames ts

theorem run_firstElement : (xs : List Json) → (frames : List Frame) → (ts : List Token) →
    (⟨.firstElement, frames⟩ : State).run (firstElement xs ++ ts) =
      (⟨.next (.array xs), frames⟩ : State).run ts
  | [], _, _ => rfl
  | x :: xs, frames, ts => by
    rw [firstElement, List.append_assoc, run_firstElement_tokens, run_tokens x,
      run_laterElements xs]
    rfl

theorem run_laterElements : (xs : List Json) → (frames : List Frame) → (ts : List Token) →
    (v : Json) → (done : List Json) →
    (⟨.next v, .array done :: frames⟩ : State).run (laterElements xs ++ ts) =
      (⟨.next (.array ((v :: done).reverse ++ xs)), frames⟩ : State).run ts
  | [], _, _, _, _ => by
    rw [List.append_nil]
    rfl
  | x :: xs, frames, ts, v, done => by
    have hstep : (⟨.next v, .array done :: frames⟩ : State).run (laterElements (x :: xs) ++ ts) =
        (⟨.value, .array (v :: done) :: frames⟩ : State).run
          (x.tokens ++ (laterElements xs ++ ts)) := by
      rw [laterElements, List.cons_append, List.append_assoc]
      rfl
    rw [hstep, run_tokens x, run_laterElements xs]
    simp

theorem run_firstMember : (ms : List Member) → (frames : List Frame) → (ts : List Token) →
    (⟨.firstKey, frames⟩ : State).run (firstMember ms ++ ts) =
      (⟨.next (.object ms), frames⟩ : State).run ts
  | [], _, _ => rfl
  | (k, x) :: ms, frames, ts => by
    have hstep : (⟨.firstKey, frames⟩ : State).run (firstMember ((k, x) :: ms) ++ ts) =
        (⟨.value, .object [] k :: frames⟩ : State).run (x.tokens ++ (laterMembers ms ++ ts)) := by
      rw [firstMember, List.cons_append, List.cons_append, List.append_assoc]
      rfl
    rw [hstep, run_tokens x, run_laterMembers ms]
    rfl

theorem run_laterMembers : (ms : List Member) → (frames : List Frame) → (ts : List Token) →
    (v : Json) → (done : List Member) → (key : Option (List Char)) →
    (⟨.next v, .object done key :: frames⟩ : State).run (laterMembers ms ++ ts) =
      (⟨.next (.object (((key, v) :: done).reverse ++ ms)), frames⟩ : State).run ts
  | [], _, _, _, _, _ => by
    rw [List.append_nil]
    rfl
  | (k, x) :: ms, frames, ts, v, done, key => by
    have hstep : (⟨.next v, .object done key :: frames⟩ : State).run
          (laterMembers ((k, x) :: ms) ++ ts) =
        (⟨.value, .object ((key, v) :: done) k :: frames⟩ : State).run
          (x.tokens ++ (laterMembers ms ++ ts)) := by
      rw [laterMembers, List.cons_append, List.cons_append, List.cons_append, List.append_assoc]
      rfl
    rw [hstep, run_tokens x, run_laterMembers ms]
    simp

end

/-- The tokens of a value are the value's. -/
theorem ofTokens?_tokens (x : Json) : ofTokens? x.tokens = some x := by
  have hrun := run_tokens x [] []
  rw [List.append_nil] at hrun
  rw [ofTokens?, hrun]
  rfl

/-- A value whose numbers are well formed is read from every text that is made of its tokens, with
blanks around them. -/
theorem parse?_of_spaced {x : Json} {cs : List Char} (h : ∀ t ∈ x.tokens, t.WellFormed)
    (hcs : Token.Spaced x.tokens cs) : parse? cs = some x := by
  rw [parse?, hcs.scanAll?_eq h (isChain_tokens x), Option.bind_some, ofTokens?_tokens]

/-- The written form of a value is read as the value. -/
theorem parse?_render {x : Json} (h : ∀ t ∈ x.tokens, t.WellFormed) : parse? x.render = some x :=
  parse?_of_spaced h (Token.spaced_render x.tokens)

end GameNight.Json
