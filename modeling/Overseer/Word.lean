/-
Overseer.Word — whole numbers of so many bits.

Stored numbers, pids and ports have a fixed number of bits, with or without a
sign. Here are the bounds of such numbers, and how any integer is brought
within them by leaving out what lies beyond.
-/
namespace Overseer.Word

/-- How many numbers of so many bits there are. -/
def size (bits : Nat) : Nat := Nat.pow 2 bits

/-- The least number with sign. -/
def least (bits : Nat) : Int := -(size (bits - 1) : Int)

/-- The greatest number with sign. -/
def greatest (bits : Nat) : Int := (size (bits - 1) : Int) - 1

/-- The greatest number without sign. -/
def greatestUnsigned (bits : Nat) : Int := (size bits : Int) - 1

/-- The number with sign that agrees with an integer in its last bits. -/
def wrap (bits : Nat) (i : Int) : Int := Int.bmod i (size bits)

/-- The number without sign that agrees with an integer in its last bits. -/
def unsigned (bits : Nat) (i : Int) : Nat := (i % (size bits : Int)).toNat

@[simp] theorem size_16 : size 16 = 65536 := rfl

@[simp] theorem size_32 : size 32 = 4294967296 := rfl

@[simp] theorem size_64 : size 64 = 18446744073709551616 := rfl

@[simp] theorem least_32 : least 32 = -2147483648 := rfl

@[simp] theorem greatest_32 : greatest 32 = 2147483647 := rfl

@[simp] theorem least_64 : least 64 = -9223372036854775808 := rfl

@[simp] theorem greatest_64 : greatest 64 = 9223372036854775807 := rfl

end Overseer.Word
