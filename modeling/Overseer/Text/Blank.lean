/-
Overseer.Text.Blank — white space.

White space is the Unicode property White_Space, not the blanks of ASCII: a
line that ends in a no-break space is trimmed, a zero-width space is an
ordinary character. Names, shell lines and command lines are all read with
this one class.
-/
import Overseer.Text.Pieces

namespace Overseer.Text

/-- The characters with the property White_Space. -/
def isBlank (c : Char) : Bool :=
  let n := c.toNat
  (9 ≤ n && n ≤ 13) || n == 0x20 || n == 0x85 || n == 0xA0 || n == 0x1680
    || (0x2000 ≤ n && n ≤ 0x200A) || n == 0x2028 || n == 0x2029 || n == 0x202F
    || n == 0x205F || n == 0x3000

/-- Drops white space at the end. -/
def trimEnd (cs : List Char) : List Char := (cs.reverse.dropWhile isBlank).reverse

/-- Drops white space at both ends. -/
def trim (cs : List Char) : List Char := trimEnd (cs.dropWhile isBlank)

/-- Holds nothing but white space. -/
def isBlankText (s : String) : Bool := s.toList.all isBlank

/-- The words of a line: its maximal runs without white space. -/
def words (cs : List Char) : List (List Char) := fields isBlank cs

/-- No word is empty. -/
theorem ne_nil_of_mem_words {cs w : List Char} (h : w ∈ words cs) : w ≠ [] := by
  simp only [words, fields, List.mem_filter, Bool.not_eq_true', List.isEmpty_eq_false_iff] at h
  exact h.2

/-- No word holds white space. -/
theorem not_isBlank_of_mem_words {cs w : List Char} (h : w ∈ words cs) :
    ∀ c ∈ w, isBlank c = false :=
  not_sep_of_mem_pieces isBlank cs w (List.mem_filter.1 h).1

end Overseer.Text
