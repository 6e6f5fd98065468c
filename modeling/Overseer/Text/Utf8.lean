/-
Overseer.Text.Utf8 — reading octets as text, whatever they are.

A character is written in one to four octets: the first tells how many follow
and within which bounds the next one lies. Octets that begin no character are
not refused but read as the replacement character, one for each longest
beginning of a character that is broken off.
-/
namespace Overseer.Text.Utf8

/-- What a first octet announces: how many octets follow, the bounds of the
next one, and the bits of the character it holds itself. -/
structure Lead where
  owed : Nat
  least : UInt8
  greatest : UInt8
  bits : Nat

/-- Reads a first octet. -/
def Lead.of? (b : UInt8) : Option Lead :=
  if b < 0x80 then some ⟨0, 0x80, 0xBF, b.toNat⟩
  else if b < 0xC2 then none
  else if b < 0xE0 then some ⟨1, 0x80, 0xBF, b.toNat - 0xC0⟩
  else if b = 0xE0 then some ⟨2, 0xA0, 0xBF, 0⟩
  else if b = 0xED then some ⟨2, 0x80, 0x9F, 0xD⟩
  else if b < 0xF0 then some ⟨2, 0x80, 0xBF, b.toNat - 0xE0⟩
  else if b = 0xF0 then some ⟨3, 0x90, 0xBF, 0⟩
  else if b < 0xF4 then some ⟨3, 0x80, 0xBF, b.toNat - 0xF0⟩
  else if b = 0xF4 then some ⟨3, 0x80, 0x8F, 4⟩
  else none

/-- Takes the octets that are owed, as far as they come: the next within the
bounds, the later ones within those of any following octet. Gives how many are
missing, the bits with those taken, and the rest. -/
def follow : Nat → UInt8 → UInt8 → Nat → List UInt8 → Nat × Nat × List UInt8
  | 0, _, _, bits, bs => (0, bits, bs)
  | n + 1, least, greatest, bits, bs =>
    match bs with
    | [] => (n + 1, bits, [])
    | b :: rest =>
      if least ≤ b ∧ b ≤ greatest then follow n 0x80 0xBF (bits * 64 + (b.toNat - 0x80)) rest
      else (n + 1, bits, b :: rest)

/-- What is left is no longer than what there was. -/
theorem length_follow_le (n : Nat) (least greatest : UInt8) (bits : Nat) (bs : List UInt8) :
    (follow n least greatest bits bs).2.2.length ≤ bs.length := by
  induction n generalizing least greatest bits bs with
  | zero => simp [follow]
  | succ n ih =>
    cases bs with
    | nil => simp [follow]
    | cons b rest =>
      simp only [follow]
      split
      · exact Nat.le_succ_of_le (ih ..)
      · exact Nat.le_refl _

/-- Stands for octets that are no character. -/
def replacement : Char := Char.ofNat 0xFFFD

/-- Reads one character or what is broken off of one; gives it and the rest. -/
def next (b : UInt8) (bs : List UInt8) : Char × List UInt8 :=
  match Lead.of? b with
  | none => (replacement, bs)
  | some lead =>
    match follow lead.owed lead.least lead.greatest lead.bits bs with
    | (0, bits, rest) => (Char.ofNat bits, rest)
    | (_ + 1, _, rest) => (replacement, rest)

/-- What is left is no longer than what there was. -/
theorem length_next_le (b : UInt8) (bs : List UInt8) : (next b bs).2.length ≤ bs.length := by
  unfold next
  split
  · exact Nat.le_refl _
  · rename_i lead _
    have := length_follow_le lead.owed lead.least lead.greatest lead.bits bs
    split <;> simp_all

/-- Reads on, with the characters read before, latest first. -/
def decodeOnto (done : List Char) : List UInt8 → List Char
  | [] => done.reverse
  | b :: bs => decodeOnto ((next b bs).1 :: done) (next b bs).2
termination_by bs => bs.length
decreasing_by exact Nat.lt_succ_of_le (length_next_le b bs)

/-- The characters of some octets. -/
def decode (bs : List UInt8) : List Char := decodeOnto [] bs

end Overseer.Text.Utf8
