/-
Overseer.Text.Pieces — cutting a text at separators.

`pieces sep` cuts at every separator and keeps empty pieces, so that a text
with `n` separators has `n + 1` pieces; `fields sep` keeps the pieces that are
not empty: the maximal runs without a separator. Words of a line, parts of a
path and lines of an output are all read this way.
-/
namespace Overseer.Text

/-- Puts a character in front of the first piece. -/
def consFirst (c : Char) : List (List Char) → List (List Char)
  | [] => [[c]]
  | p :: ps => (c :: p) :: ps

/-- The text between the separators, in order, empty pieces included. -/
def pieces (sep : Char → Bool) : List Char → List (List Char)
  | [] => [[]]
  | c :: cs => if sep c then [] :: pieces sep cs else consFirst c (pieces sep cs)

/-- The maximal runs of characters that are no separators. -/
def fields (sep : Char → Bool) (cs : List Char) : List (List Char) :=
  (pieces sep cs).filter fun p => !p.isEmpty

/-- There is always a first piece. -/
theorem pieces_ne_nil (sep : Char → Bool) (cs : List Char) : pieces sep cs ≠ [] := by
  cases cs with
  | nil => simp [pieces]
  | cons c cs =>
    by_cases h : sep c
    · simp [pieces, h]
    · simp only [pieces, h]
      cases pieces sep cs <;> simp [consFirst]

/-- No piece holds a separator. -/
theorem not_sep_of_mem_pieces (sep : Char → Bool) (cs : List Char) :
    ∀ p ∈ pieces sep cs, ∀ c ∈ p, sep c = false := by
  induction cs with
  | nil => simp [pieces]
  | cons d ds ih =>
    intro p hp c hc
    by_cases h : sep d
    · simp only [pieces, h, if_true, List.mem_cons] at hp
      rcases hp with rfl | hp
      · simp at hc
      · exact ih p hp c hc
    · simp only [pieces, h] at hp
      match hps : pieces sep ds with
      | [] => exact absurd hps (pieces_ne_nil sep ds)
      | q :: qs =>
        rw [hps] at hp ih
        simp only [consFirst, Bool.false_eq_true, if_false, List.mem_cons] at hp
        rcases hp with rfl | hp
        · rcases List.mem_cons.1 hc with rfl | hc
          · simpa using h
          · exact ih q (by simp) c hc
        · exact ih p (by simp [hp]) c hc

end Overseer.Text
