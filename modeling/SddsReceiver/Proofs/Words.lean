import SddsReceiver.Text.Pieces

/-!
# Texts that are put together and taken apart

What it means that words stand on a line is said without saying how to find them: a blank may
stand in front of anything, and a word in front of a blank or of the end. The words of a line are
then the only ones that stand on it. What follows the first or the last occurrence of a character
is told in the same way, by the text that it is put together from.
-/
namespace SddsReceiver.Text

/-! ## Words on a line -/

def IsWord (word : List Char) : Prop := word ≠ [] ∧ ∀ c ∈ word, isBlank c = false

/-- The words stand on the line in this order, with blanks between any two of them and perhaps
around them. -/
inductive SetOut : List (List Char) → List Char → Prop
  | empty : SetOut [] []
  | blank {c : Char} {words : List (List Char)} {rest : List Char} :
      isBlank c = true → SetOut words rest → SetOut words (c :: rest)
  | word {word : List Char} {words : List (List Char)} {rest : List Char} :
      IsWord word → (∀ c ∈ rest.head?, isBlank c = true) → SetOut words rest →
      SetOut (word :: words) (word ++ rest)

theorem words_cons_blank {c : Char} (h : isBlank c = true) (rest : List Char) :
    words (c :: rest) = words rest := by
  rw [words, wordsFrom, if_pos h]
  rfl

theorem wordsFrom_cons_letter {c : Char} (h : isBlank c = false) (word rest : List Char) :
    wordsFrom word (c :: rest) = wordsFrom (c :: word) rest := by
  rw [wordsFrom, if_neg (Bool.eq_false_iff.mp h)]

theorem wordsFrom_letters {letters : List Char} (h : ∀ c ∈ letters, isBlank c = false)
    (word rest : List Char) :
    wordsFrom word (letters ++ rest) = wordsFrom (letters.reverse ++ word) rest := by
  induction letters generalizing word with
  | nil => rfl
  | cons c letters ih =>
      have hc : isBlank c = false := h c List.mem_cons_self
      rw [List.cons_append, wordsFrom_cons_letter hc,
        ih fun l hl => h l (List.mem_cons_of_mem c hl), List.reverse_cons, List.append_assoc]
      rfl

theorem wordsFrom_apart {rest : List Char} (h : ∀ c ∈ rest.head?, isBlank c = true)
    (part : List Char) :
    wordsFrom part rest = if part.isEmpty then words rest else part.reverse :: words rest := by
  cases rest with
  | nil => rfl
  | cons c rest =>
      have hc : isBlank c = true := h c rfl
      rw [wordsFrom, if_pos hc, words_cons_blank hc]
      rfl

theorem words_of_setOut {fields : List (List Char)} {line : List Char} (h : SetOut fields line) :
    words line = fields := by
  induction h with
  | empty => rfl
  | blank hc _ ih => rw [words_cons_blank hc, ih]
  | word hword hapart _ ih =>
      have hbegun := List.isEmpty_eq_false_iff.mpr (List.reverse_ne_nil_iff.mpr hword.1)
      rw [words, wordsFrom_letters hword.2, List.append_nil, wordsFrom_apart hapart, hbegun,
        List.reverse_reverse, ih]
      rfl

theorem setOut_wordsFrom_apart {part rest : List Char} (hpart : ∀ c ∈ part, isBlank c = false)
    (hapart : ∀ c ∈ rest.head?, isBlank c = true) (hrest : SetOut (words rest) rest) :
    SetOut (wordsFrom part rest) (part.reverse ++ rest) := by
  rw [wordsFrom_apart hapart]
  cases part with
  | nil => exact hrest
  | cons c part =>
      have hword : IsWord (c :: part).reverse :=
        ⟨by simp, fun l hl => hpart l (List.mem_reverse.mp hl)⟩
      exact .word hword hapart hrest

/-- What is found behind a part of a word stands on the line that begins with that part. -/
theorem setOut_wordsFrom {part : List Char} (hpart : ∀ c ∈ part, isBlank c = false)
    (rest : List Char) : SetOut (wordsFrom part rest) (part.reverse ++ rest) := by
  induction rest generalizing part with
  | nil => exact setOut_wordsFrom_apart hpart (by simp) .empty
  | cons c rest ih =>
      cases hc : isBlank c with
      | false =>
          have hlonger : ∀ l ∈ c :: part, isBlank l = false := List.forall_mem_cons.mpr ⟨hc, hpart⟩
          have hline : part.reverse ++ c :: rest = (c :: part).reverse ++ rest := by simp
          rw [wordsFrom_cons_letter hc, hline]
          exact ih hlonger
      | true =>
          have hlater : SetOut (words rest) rest := ih (List.forall_mem_nil _)
          have hrest : SetOut (words (c :: rest)) (c :: rest) := by
            rw [words_cons_blank hc]
            exact .blank hc hlater
          exact setOut_wordsFrom_apart hpart (by simpa using hc) hrest

theorem words_eq_iff {fields : List (List Char)} {line : List Char} :
    words line = fields ↔ SetOut fields line := by
  constructor
  · rintro rfl
    exact setOut_wordsFrom (List.forall_mem_nil _) line
  · exact words_of_setOut

/-! ## Pieces of a text -/

theorem pieces_eq_splitOn (separator : Char) (text : List Char) :
    pieces separator text = text.splitOn separator := by
  induction text with
  | nil => exact (List.splitOn_nil separator).symm
  | cons c text ih =>
      obtain ⟨first, rest, hpieces⟩ := List.exists_cons_of_ne_nil (pieces_ne_nil separator text)
      rw [pieces, List.splitOn_cons_eq_if_modifyHead, ← ih, hpieces]
      simp only [beq_iff_eq, List.modifyHead_cons]

theorem exists_cons_eq_append {c separator : Char} {text rest : List Char}
    {P : List Char → Prop} :
    (∃ before, c :: text = before ++ separator :: rest ∧ P before) ↔
      (c = separator ∧ text = rest ∧ P []) ∨
        ∃ before, text = before ++ separator :: rest ∧ P (c :: before) := by
  constructor
  · rintro ⟨before, htext, hbefore⟩
    cases before with
    | nil => exact .inl ⟨(List.cons.inj htext).1, (List.cons.inj htext).2, hbefore⟩
    | cons d before =>
        obtain ⟨rfl, hrest⟩ := List.cons.inj htext
        exact .inr ⟨before, hrest, hbefore⟩
  · rintro (⟨rfl, rfl, hbefore⟩ | ⟨before, rfl, hbefore⟩)
    · exact ⟨[], rfl, hbefore⟩
    · exact ⟨c :: before, rfl, hbefore⟩

theorem afterFirst?_eq_some_iff {separator : Char} {text rest : List Char} :
    afterFirst? separator text = some rest ↔
      ∃ before, text = before ++ separator :: rest ∧ separator ∉ before := by
  induction text with
  | nil => simp [afterFirst?]
  | cons c text ih =>
      rw [afterFirst?, exists_cons_eq_append]
      by_cases hc : c = separator
      · simp [hc]
      · simp [hc, ih, Ne.symm hc]

theorem afterLast?_eq_none_iff {separator : Char} {text : List Char} :
    afterLast? separator text = none ↔ separator ∉ text := by
  induction text with
  | nil => simp [afterLast?]
  | cons c text ih =>
      rw [List.mem_cons, not_or, ← ih, afterLast?, eq_comm (a := separator)]
      cases afterLast? separator text <;> simp

theorem afterLast?_eq_some_iff {separator : Char} {text rest : List Char} :
    afterLast? separator text = some rest ↔
      ∃ before, text = before ++ separator :: rest ∧ separator ∉ rest := by
  induction text with
  | nil => simp [afterLast?]
  | cons c text ih =>
      rw [afterLast?, exists_cons_eq_append, ← ih]
      cases hlast : afterLast? separator text with
      | none =>
          have hnone : separator ∉ text := afterLast?_eq_none_iff.mp hlast
          by_cases hc : c = separator
          · simp only [hc, if_true, Option.some.injEq, true_and, reduceCtorEq, or_false]
            exact ⟨fun hrest => ⟨hrest, hrest ▸ hnone⟩, And.left⟩
          · simp [hc]
      | some last =>
          have hsome : separator ∈ text := Decidable.byContradiction fun hnone =>
            Option.some_ne_none last (hlast.symm.trans (afterLast?_eq_none_iff.mpr hnone))
          have hlater : ¬ (c = separator ∧ text = rest ∧ separator ∉ rest) :=
            fun ⟨_, hrest, hnone⟩ => hnone (hrest ▸ hsome)
          exact (or_iff_right hlater).symm

end SddsReceiver.Text
