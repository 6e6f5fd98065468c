/-
Overseer.Proofs.Wrapper.Reader — the lines of an output, however it comes in.

A reader hears octets in pieces of any size, and it is the same as if it had heard
them at once (`feed_append`). What it gives in the end are the octets cut at their
newlines, and what stands after the last one if anything does, read as text one by
one: `linesOf_eq`. `cut` says so without a reader.
-/
import Overseer.Wrapper.Reader

namespace Overseer.Wrapper

/-- Octets cut at their newlines; what stands after the last one is a piece if there is any. -/
def cut : List UInt8 → List (List UInt8)
  | [] => []
  | b :: octets =>
    if b = 10 then [] :: cut octets
    else
      match cut octets with
      | [] => [[b]]
      | piece :: pieces => (b :: piece) :: pieces

theorem cut_append_newline {piece : List UInt8} (hpiece : 10 ∉ piece) (octets : List UInt8) :
    cut (piece ++ 10 :: octets) = piece :: cut octets := by
  induction piece with
  | nil => simp [cut]
  | cons b piece ih =>
    rw [List.mem_cons, not_or] at hpiece
    rw [List.cons_append, cut, if_neg (Ne.symm hpiece.1), ih hpiece.2]

theorem cut_of_not_mem {piece : List UInt8} (hpiece : 10 ∉ piece) :
    cut piece = if piece.isEmpty then [] else [piece] := by
  induction piece with
  | nil => rfl
  | cons b piece ih =>
    rw [List.mem_cons, not_or] at hpiece
    rw [cut, if_neg (Ne.symm hpiece.1), ih hpiece.2]
    cases piece <;> rfl

namespace Reader

theorem foldl_takeOctet (octets : List UInt8) (lines : List String) (r : Reader) :
    octets.foldl takeOctet (lines, r)
      = ((octets.foldl takeOctet ([], r)).1 ++ lines, (octets.foldl takeOctet ([], r)).2) := by
  induction octets generalizing lines r with
  | nil => rfl
  | cons b octets ih =>
    rw [List.foldl_cons, List.foldl_cons]
    by_cases hb : b = 10
    · simp only [takeOctet, if_pos hb]
      rw [ih (lineText r.held.reverse :: lines), ih [lineText r.held.reverse], List.append_assoc]
      rfl
    · simp only [takeOctet, if_neg hb]
      exact ih lines _

theorem feed_nil (r : Reader) : r.feed [] = ([], r) := rfl

theorem feed_newline (r : Reader) (octets : List UInt8) :
    r.feed (10 :: octets)
      = (lineText r.held.reverse :: (empty.feed octets).1, (empty.feed octets).2) := by
  simp only [feed, List.foldl_cons, takeOctet, if_true]
  rw [foldl_takeOctet]
  simp

theorem feed_other (r : Reader) {b : UInt8} (hb : b ≠ 10) (octets : List UInt8) :
    r.feed (b :: octets) = feed ⟨b :: r.held⟩ octets := by
  simp only [feed, List.foldl_cons, takeOctet, if_neg hb]

/-- What comes in two pieces might have come in one. -/
theorem feed_append (r : Reader) (octets octets' : List UInt8) :
    r.feed (octets ++ octets')
      = ((r.feed octets).1 ++ ((r.feed octets).2.feed octets').1,
          ((r.feed octets).2.feed octets').2) := by
  induction octets generalizing r with
  | nil => simp [feed_nil]
  | cons b octets ih =>
    rw [List.cons_append]
    by_cases hb : b = 10
    · rw [hb, feed_newline, feed_newline, ih]
      rfl
    · rw [feed_other r hb, feed_other r hb, ih]

/-- A reader that holds the octets of an unfinished line gives the lines of these octets
and all that follow. -/
theorem feed_close {held : List UInt8} (hheld : 10 ∉ held) (octets : List UInt8) :
    (feed ⟨held.reverse⟩ octets).1 ++ (feed ⟨held.reverse⟩ octets).2.close
      = (cut (held ++ octets)).map lineText := by
  induction octets generalizing held with
  | nil =>
    rw [feed_nil, List.append_nil, cut_of_not_mem hheld, close, List.isEmpty_reverse,
      List.reverse_reverse]
    cases held <;> rfl
  | cons b octets ih =>
    by_cases hb : b = 10
    · rw [hb, feed_newline, cut_append_newline hheld, List.reverse_reverse, List.map_cons]
      exact congrArg (lineText held :: ·) (ih List.not_mem_nil)
    · have hlonger : 10 ∉ held ++ [b] := by simp [hheld, Ne.symm hb]
      have hrest := ih hlonger
      rw [List.reverse_append, List.append_assoc] at hrest
      rw [feed_other _ hb]
      exact hrest

end Reader

/-- **The lines of an output** are its octets cut at the newlines, each read as text. -/
theorem linesOf_eq (octets : List UInt8) : linesOf octets = (cut octets).map lineText :=
  Reader.feed_close List.not_mem_nil octets

end Overseer.Wrapper
