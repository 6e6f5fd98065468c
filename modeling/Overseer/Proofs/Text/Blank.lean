/-
Overseer.Proofs.Text.Blank — lines, with and without the white space around them.

Trimming takes white space from both ends and nothing else (`isTrimmed_trim`), so the words
of a line are those of the trimmed line (`words_trim`), and there are none only if the line
is blank (`words_eq_nil_iff`).
-/
import Mathlib.Data.List.DropRight
import Overseer.Proofs.Text.Pieces
import Overseer.Text.Blank

namespace Overseer.Text

variable {cs core word : List Char}

theorem isBlankText_eq_false_iff {s : String} :
    isBlankText s = false ↔ ∃ c ∈ s.toList, isBlank c = false := by
  simp [isBlankText]

/-! ## 1. Trimming -/

/-- The line without the white space at its two ends. -/
structure IsTrimmed (cs core : List Char) : Prop where
  ends : ∃ front back, cs = front ++ core ++ back ∧ (∀ c ∈ front, isBlank c = true)
    ∧ ∀ c ∈ back, isBlank c = true
  first : ∀ c ∈ core.head?, isBlank c = false
  last : ∀ c ∈ core.getLast?, isBlank c = false

theorem isBlank_head_dropWhile {c : Char} (h : c ∈ (cs.dropWhile isBlank).head?) :
    isBlank c = false := by
  have hhead := List.head?_dropWhile_not isBlank cs
  rw [Option.mem_def.mp h] at hhead
  exact hhead

theorem trimEnd_append (cs : List Char) :
    cs = trimEnd cs ++ (cs.reverse.takeWhile isBlank).reverse := by
  rw [trimEnd, ← List.reverse_append, List.takeWhile_append_dropWhile, List.reverse_reverse]

theorem isTrimmed_trim (cs : List Char) : IsTrimmed cs (trim cs) where
  ends := by
    refine ⟨cs.takeWhile isBlank, ((cs.dropWhile isBlank).reverse.takeWhile isBlank).reverse,
      ?_, fun c hc => List.mem_takeWhile_imp hc,
      fun c hc => List.mem_takeWhile_imp (List.mem_reverse.mp hc)⟩
    rw [List.append_assoc, trim, ← trimEnd_append, List.takeWhile_append_dropWhile]
  first := by
    intro c hc
    have hbegins : trim cs <+: cs.dropWhile isBlank := ⟨_, (trimEnd_append _).symm⟩
    obtain ⟨rest, hrest⟩ := hbegins
    obtain ⟨tail, htail⟩ := List.head?_eq_some_iff.mp (Option.mem_def.mp hc)
    have hfirst : c ∈ (cs.dropWhile isBlank).head? := by
      rw [← hrest, htail]
      rfl
    exact isBlank_head_dropWhile hfirst
  last := by
    intro c hc
    rw [trim, trimEnd, List.getLast?_reverse] at hc
    exact isBlank_head_dropWhile hc

theorem mem_of_mem_trim {c : Char} (h : c ∈ trim cs) : c ∈ cs := by
  obtain ⟨front, back, hends, -, -⟩ := (isTrimmed_trim cs).ends
  rw [hends]
  exact List.mem_append_left _ (List.mem_append_right _ h)

/-! ## 2. Words -/

theorem words_eq_nil_iff : words cs = [] ↔ ∀ c ∈ cs, isBlank c = true := by
  rw [words, fields_eq_iff]
  constructor
  · rintro ⟨hgap⟩
    exact hgap
  · exact .none

/-- White space at the ends makes no difference to the words. -/
theorem words_trim (cs : List Char) : words (trim cs) = words cs := by
  obtain ⟨front, back, hends, hfront, hback⟩ := (isTrimmed_trim cs).ends
  have hwords : words cs = words (front ++ trim cs ++ back) := congrArg words hends
  rw [hwords, words, words, List.append_assoc, fields_append_of_gap hfront, fields_append_gap hback]

theorem mem_of_mem_words {c : Char} (hword : word ∈ words cs) (hc : c ∈ word) : c ∈ cs := by
  obtain ⟨words, h⟩ := exists_runs isBlank cs
  rw [Text.words, h.fields_eq] at hword
  induction h with
  | none => cases hword
  | run _ _ _ _ _ ih =>
    rcases List.mem_cons.mp hword with rfl | hlater
    · simp [hc]
    · exact List.mem_append_right _ (ih hlater)

end Overseer.Text
