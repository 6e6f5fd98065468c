/-
Overseer.Rehearsal.Octets — texts as programs see them.

Programs on a scene see octets and not characters. What they hold is kept as a
text each of whose characters stands for one octet, so that lengths and patterns
count octets; such a text is called spelled here.
-/
import Overseer.Path
import Overseer.Text.Utf8

namespace Overseer.Rehearsal

/-- The octets that a spelled text stands for. -/
def octetsOf (text : String) : List UInt8 := text.toList.map fun c => c.toNat.toUInt8

/-- Octets as a spelled text. -/
def spelled (octets : List UInt8) : String :=
  String.ofList (octets.map fun b => Char.ofNat b.toNat)

/-- Spells a text out. -/
def spell (text : String) : String := spelled text.toUTF8.toList

/-- The text that is spelled; octets that are no text are replaced. -/
def unspell (text : String) : String := String.ofList (Text.Utf8.decode (octetsOf text))

/-- The path that a spelled text names. -/
def pathOf (text : String) : Path := ⟨unspell text⟩

example : octetsOf (spelled [104, 195, 255]) = [104, 195, 255] := by decide

end Overseer.Rehearsal
