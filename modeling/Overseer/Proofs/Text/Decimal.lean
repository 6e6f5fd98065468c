/-
Overseer.Proofs.Text.Decimal — a number that was printed is read back.

A number is printed with digits only, behind a sign if it is below 0
(`toList_toString_int`). So what `decimal?` reads is what was printed
(`decimal?_toString`). It holds no blank (`not_blank_of_mem_toString`), so in a text that
ends with a blank and a number the number is the last piece (`pieces_append_number`).
-/
import Overseer.Proofs.Text.Pieces
import Overseer.Text.Decimal

namespace Overseer

namespace Text

theorem digitsAfter_eq_foldl (n : Nat) (cs : List Char) :
    digitsAfter n cs = cs.foldl (fun value c => 10 * value + (c.toNat - 48)) n := by
  induction cs generalizing n with
  | nil => rfl
  | cons c cs ih => exact ih _

theorem digitsAfter_toDigits (n : Nat) : digitsAfter 0 (Nat.toDigits 10 n) = n := by
  have hvalue : Nat.ofDigitChars 10 (Nat.toDigits 10 n) 0 = n := Nat.ofDigitChars_ten_toDigits
  rw [Nat.ofDigitChars_eq_foldl] at hvalue
  rw [digitsAfter_eq_foldl]
  exact hvalue

theorem splitSign_of_isDigit {cs : List Char} (h : ∀ c ∈ cs, c.isDigit = true) :
    splitSign cs = (false, cs) := by
  unfold splitSign
  split
  · exact absurd (h '-' List.mem_cons_self) (by decide)
  · exact absurd (h '+' List.mem_cons_self) (by decide)
  · rfl

theorem isDigit_toDigits (n : Nat) : ∀ c ∈ Nat.toDigits 10 n, c.isDigit = true :=
  fun _ hc => Nat.isDigit_of_mem_toDigits (by decide) (by decide) hc

/-- A printed number is its digits, with a sign in front if it is below 0. -/
theorem toList_toString_int (i : Int) :
    (toString i).toList = (if 0 ≤ i then [] else ['-']) ++ Nat.toDigits 10 i.natAbs := by
  rw [Int.toString_eq_repr, Int.repr_eq_if]
  split
  next hpos =>
    have habs : i.toNat = i.natAbs := by omega
    rw [Nat.toList_repr, habs, List.nil_append]
  next hneg =>
    have habs : (-i).toNat = i.natAbs := by omega
    simp [habs]

/-- A printed number is read back. -/
theorem decimal?_toString (i : Int) : decimal? (toString i).toList = some i := by
  have hdigits : ((Nat.toDigits 10 i.natAbs).isEmpty
      || !(Nat.toDigits 10 i.natAbs).all Char.isDigit) = false := by
    have hall : (Nat.toDigits 10 i.natAbs).all Char.isDigit = true :=
      List.all_eq_true.mpr (isDigit_toDigits _)
    rw [hall, Bool.not_true, Bool.or_false, List.isEmpty_eq_false_iff]
    exact Nat.toDigits_ne_nil
  rw [toList_toString_int]
  split
  next hpos =>
    rw [List.nil_append, decimal?, splitSign_of_isDigit (isDigit_toDigits _)]
    simp only [hdigits, Bool.false_eq_true, if_false, digitsAfter_toDigits, Option.some.injEq]
    omega
  next hneg =>
    rw [List.singleton_append, decimal?, splitSign]
    simp only [hdigits, Bool.false_eq_true, if_false, if_true, digitsAfter_toDigits,
      Option.some.injEq]
    omega

/-- A printed number holds digits and a sign only. -/
theorem digit_or_sign_of_mem_toString {i : Int} {c : Char} (hc : c ∈ (toString i).toList) :
    c.isDigit = true ∨ c = '-' := by
  rw [toList_toString_int] at hc
  rcases List.mem_append.mp hc with hsign | hdigit
  · split at hsign
    · cases hsign
    · exact Or.inr (List.mem_singleton.mp hsign)
  · exact Or.inl (isDigit_toDigits _ c hdigit)

/-- So it has no blank in it. -/
theorem not_blank_of_mem_toString (i : Int) : ∀ c ∈ (toString i).toList, (c == ' ') = false := by
  intro c hc
  refine beq_eq_false_iff_ne.mpr fun hblank => ?_
  have hdigit := digit_or_sign_of_mem_toString hc
  rw [hblank] at hdigit
  exact absurd hdigit (by decide)

/-- A number behind a blank is a piece of its own. -/
theorem pieces_append_number (before : List Char) (i : Int) :
    pieces (· == ' ') (before ++ ' ' :: (toString i).toList)
      = pieces (· == ' ') before ++ [(toString i).toList] := by
  rw [pieces_append_cons rfl, pieces_of_forall_not (not_blank_of_mem_toString i)]

end Text

end Overseer
