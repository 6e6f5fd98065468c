/-
Overseer.Text.Width — how many columns a text takes.

A text is measured from its end, because what a character takes depends on
what follows it: letters that are drawn as one sign with the next letter,
pictures joined to pictures, tones of skin, flags and the two selectors that
ask for a picture or for text. `Context` is what has to be remembered about the
characters after the one being measured; a character may even take back a
column that the one after it had claimed.
-/
import Overseer.Text.Width.Columns
import Overseer.Text.Width.Letters
import Overseer.Text.Width.Pictures

namespace Overseer.Text

/-- The beginning of a sign that takes several letters, as its last letters show. -/
inductive Joining where
  | lamed
  | ya
  | vowelYa
  | consonant
  | joinedConsonant
  | toneLetter
  | orkhon
  | below
  deriving DecidableEq, Repr

/-- What the text after a character begins with. -/
inductive Ahead where
  /-- Nothing that matters. -/
  | other
  /-- The end of the line. -/
  | lineEnd
  /-- A form of alef. -/
  | alef
  /-- Letters that may be joined, with or without a joiner before them. -/
  | letters (joining : Joining) (joiner : Bool)
  /-- The tone of a skin. -/
  | skinTone
  /-- One letter of a flag, or several. -/
  | flagLetters (several : Bool)
  /-- A picture. -/
  | picture
  /-- A picture with a joiner before it, with the sign of a key between them or not. -/
  | joined (keycap : Bool)
  /-- Letters of flags before a joiner: one, an even number, or an odd one. -/
  | joinedFlag
  | joinedFlags (even : Bool)
  /-- The name of a region before a joiner: so many letters, or so many digits. -/
  | tagLetters (count : Nat)
  | tagDigits (count : Nat)
  deriving DecidableEq, Repr

/-- The two selectors. -/
inductive Selector where
  | text
  | picture
  deriving DecidableEq, Repr

/-- What is remembered about the characters after the one being measured. -/
structure Context where
  ahead : Ahead := .other
  selector : Option Selector := none
  deriving DecidableEq, Repr

namespace Ahead

/-- Letters that are still joined across a selector. -/
def outlastsSelector : Ahead → Bool
  | .alef => true
  | .letters _ _ => true
  | _ => false

/-- A picture before a joiner. -/
def isJoined : Ahead → Bool
  | .joined _ => true
  | _ => false

end Ahead

namespace Context

/-- A selector comes before what is ahead. -/
def select (ctx : Context) (s : Selector) : Context :=
  if ctx.ahead.outlastsSelector || (ctx.ahead.isJoined && s == .picture) then ⟨ctx.ahead, some s⟩
  else ⟨.other, some s⟩

/-- The selector had nothing to select. -/
def unselect (ctx : Context) : Context :=
  if ctx.ahead.outlastsSelector then ⟨ctx.ahead, none⟩ else {}

end Context

/-- What a character begins when nothing after it matters. -/
def begins (c : Char) : Context :=
  if c.toNat = 0xA then ⟨.lineEnd, none⟩
  else if c.toNat < 0x300 then {}
  else if c.toNat = 0x5DC then ⟨.letters .lamed false, none⟩
  else if isAlef c then ⟨.alef, none⟩
  else if isCoengLetter c then ⟨.letters .below true, none⟩
  else if c.toNat = 0x1A10 then ⟨.letters .ya false, none⟩
  else if isTifinagh c then ⟨.letters .consonant false, none⟩
  else if c.toNat = 0xA4FC || c.toNat = 0xA4FD then ⟨.letters .toneLetter true, none⟩
  else if c.toNat = 0xFE0E then ⟨.other, some .text⟩
  else if c.toNat = 0xFE0F then ⟨.other, some .picture⟩
  else if c.toNat = 0x10C03 then ⟨.letters .orkhon false, none⟩
  else if isFlagLetter c then ⟨.flagLetters false, none⟩
  else if isSkinTone c then ⟨.skinTone, none⟩
  else if isPicture c then ⟨.picture, none⟩
  else {}

/-- A character joins letters that are drawn together: the columns it adds and what is ahead
then. -/
def joinLetters (j : Joining) (joiner : Bool) (c : Char) : Option (Int × Ahead) :=
  match j, joiner with
  | .lamed, true => if c.toNat = 0x5D0 then some (0, .other) else none
  | .below, _ => if c.toNat = 0x17D2 then some (-1, .other) else none
  | .ya, true => if c.toNat = 0x1A17 then some (0, .letters .vowelYa true) else none
  | .vowelYa, _ => if c.toNat = 0x1A15 then some (0, .other) else none
  | .consonant, _ =>
    if c.toNat = 0x2D7F then some (1, .letters .joinedConsonant true)
    else if joiner && isTifinagh c then some (0, .other) else none
  | .joinedConsonant, _ => if isTifinagh c then some (-1, .other) else none
  | .toneLetter, _ => if inRanges [(0xA4F8, 0xA4FB)] c.toNat then some (0, .other) else none
  | .orkhon, true => if c.toNat = 0x10C32 then some (0, .other) else none
  | _, _ => none

/-- A character joins what is ahead: the columns it adds and what is ahead then. -/
def join (c : Char) : Ahead → Option (Int × Ahead)
  | .other | .lineEnd => none
  | .alef =>
    if isLam c then some (0, .other) else if isTransparent c then some (0, .alef) else none
  | .letters j joiner =>
    if c.toNat = 0x200D then some (0, .letters j true)
    else if isHiddenMark c then some (0, .letters j joiner)
    else joinLetters j joiner c
  | .skinTone =>
    if takesSkinTone c then some (0, .picture)
    else if c.toNat = 0x200D then some (0, .joined false) else none
  | .flagLetters several =>
    if isFlagLetter c then some (1, .flagLetters true)
    else if several && c.toNat = 0x200D then some (0, .joined false) else none
  | .picture => if c.toNat = 0x200D then some (0, .joined false) else none
  | .joined false =>
    if c.toNat = 0x20E3 then some (0, .joined true)
    else if isFlagLetter c then some (1, .joinedFlag)
    else if isSkinTone c then some (0, .skinTone)
    else if c.toNat = 0xE007F then some (0, .tagLetters 0)
    else if isPicture c then some (0, .picture) else none
  | .joined true => none
  | .joinedFlag => if isFlagLetter c then some (-1, .joinedFlags true) else none
  | .joinedFlags even =>
    if isFlagLetter c then some (if even then 3 else -1, .joinedFlags (!even))
    else if c.toNat = 0x200D then some (0, .joined false) else none
  | .tagLetters n =>
    if isTagLetter c && n < 6 then some (0, .tagLetters (n + 1))
    else if isTagDigit c && n < 5 then some (0, .tagDigits 1)
    else if c.toNat = 0x1F3F4 && 3 ≤ n then some (0, .picture) else none
  | .tagDigits n =>
    if isTagDigit c && n < 3 then some (0, .tagDigits (n + 1))
    else if c.toNat = 0x1F3F4 && n = 3 then some (0, .picture) else none

/-- The columns a character adds before a context, and the context it makes. -/
def measureOther (c : Char) (ctx : Context) : Int × Context :=
  if c.toNat ≤ 0xA0 then
    if c == '\r' && ctx == ⟨.lineEnd, none⟩ then (0, {}) else (1, begins c)
  else if ctx == {} then (charWidth c, begins c)
  else if c.toNat = 0xFE0F then (0, ctx.select .picture)
  else if c.toNat = 0xFE0E then (0, ctx.select .text)
  else if ctx.selector == some .text && narrowsAsText c then (1, {})
  else
    let plain := if ctx.selector == some .text then ctx.unselect else ctx
    match join c plain.ahead with
    | some (columns, ahead) => (columns, ⟨ahead, none⟩)
    | none => (charWidth c, begins c)

/-- The columns a character adds, where a selector after it may make it a picture. -/
def measure (c : Char) (ctx : Context) : Int × Context :=
  if ctx.selector == some .picture then
    if isSelectable c then (if ctx.ahead.isJoined then 0 else 2, ⟨.picture, none⟩)
    else measureOther c ctx.unselect
  else measureOther c ctx

/-- The columns of a text, and what it begins with. -/
def measureAll : List Char → Int × Context
  | [] => (0, {})
  | c :: rest =>
    let (columns, ctx) := measureAll rest
    let (more, ctx) := measure c ctx
    (columns + more, ctx)

/-- How many columns a text takes. -/
def width (cs : List Char) : Nat := (measureAll cs).1.toNat

/-- The text of the code points. -/
def ofCodePoints (ns : List Nat) : List Char := ns.map Char.ofNat

example : width "abc".toList = 3 := by decide
example : width (ofCodePoints [0x65E5, 0x301, 0x78]) = 3 := by decide +kernel
example : width (ofCodePoints [0x644, 0x627]) = 1 := by decide +kernel
example : width (ofCodePoints [0x31, 0xFE0F, 0x20E3]) = 2 := by decide +kernel
example : width (ofCodePoints [0x1F44D, 0x1F3FD]) = 2 := by decide +kernel
example : width (ofCodePoints [0x1781, 0x17D2, 0x1798]) = 1 := by decide +kernel

end Overseer.Text
