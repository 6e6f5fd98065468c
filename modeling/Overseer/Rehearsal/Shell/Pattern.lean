/-
Overseer.Rehearsal.Shell.Pattern — patterns that texts are held against.

A star stands for any text, a question mark for any one character, a class in
brackets for one of its characters. Characters that were quoted stand for
themselves.
-/
namespace Overseer.Rehearsal.Shell

/-- A character of a pattern, which may be quoted. -/
structure PatternChar where
  char : Char
  quoted : Bool
deriving DecidableEq, Repr

/-- The character is this one, and it is not quoted. -/
def PatternChar.isBare (p : PatternChar) (c : Char) : Bool := !p.quoted && p.char == c

/-- Characters that a class in brackets holds. -/
inductive ClassItem where
  | range (first last : Char)
  /-- The characters of a kind that has a name. -/
  | kind (name : String)
deriving DecidableEq, Repr

namespace ClassItem

/-- The names of the kinds, and what is of each. -/
def kinds : List (String × (Char → Bool)) :=
  let printable (c : Char) : Bool := decide (' ' < c) && decide (c ≤ '~')
  [("alpha", Char.isAlpha), ("digit", Char.isDigit), ("alnum", Char.isAlphanum),
   ("upper", Char.isUpper), ("lower", Char.isLower),
   ("space", fun c => c == ' ' || (decide ('\t' ≤ c) && decide (c ≤ '\r'))),
   ("blank", fun c => c == ' ' || c == '\t'),
   ("punct", fun c => printable c && !c.isAlphanum),
   ("graph", printable), ("print", fun c => c == ' ' || printable c),
   ("cntrl", fun c => decide (c < ' ') || c == '\x7f'),
   ("xdigit", fun c => c.isDigit || ('a' ≤ c && c ≤ 'f') || ('A' ≤ c && c ≤ 'F'))]

/-- The item holds the character. -/
def holds (i : ClassItem) (c : Char) : Bool :=
  match i with
  | range first last => decide (first ≤ c) && decide (c ≤ last)
  | kind name => (kinds.lookup name).any fun f => f c

end ClassItem

/-- A part of a pattern. -/
inductive Symbol where
  | anyText
  | anyChar
  | char (c : Char)
  | oneOf (wanted : Bool) (items : List ClassItem)
deriving DecidableEq, Repr

namespace Symbol

/-- The name of a kind behind its opening, and what follows. -/
def readKind (cs : List PatternChar) : Option (String × List PatternChar) :=
  let name := cs.takeWhile fun p => p.char.isLower
  match cs.drop name.length with
  | colon :: close :: rest =>
    if colon.char == ':' && close.char == ']' then
      some (String.ofList (name.map (·.char)), rest)
    else none
  | _ => none

/-- Reads the items of a class up to its closing bracket. A bracket that comes
first is an item. -/
def readItems : Nat → Bool → List PatternChar → Option (List ClassItem × List PatternChar)
  | 0, _, _ => none
  | _, _, [] => none
  | fuel + 1, first, p :: cs =>
    if p.isBare ']' && !first then some ([], cs)
    else
      let kind? := match cs with
        | colon :: rest => if p.isBare '[' && colon.isBare ':' then readKind rest else none
        | [] => none
      match kind? with
      | some (name, rest) => do
        let (items, rest) ← readItems fuel false rest
        return (.kind name :: items, rest)
      | none =>
        match cs with
        | dash :: last :: rest =>
          if dash.isBare '-' && !last.isBare ']' then do
            let (items, rest) ← readItems fuel false rest
            return (.range p.char last.char :: items, rest)
          else do
            let (items, rest) ← readItems fuel false cs
            return (.range p.char p.char :: items, rest)
        | _ => do
          let (items, rest) ← readItems fuel false cs
          return (.range p.char p.char :: items, rest)

/-- Reads a class behind its opening bracket. -/
def readClass (cs : List PatternChar) : Option (Symbol × List PatternChar) :=
  let (wanted, inside) := match cs with
    | p :: rest => if p.isBare '!' then (false, rest) else (true, cs)
    | [] => (true, cs)
  (readItems (inside.length + 1) true inside).map fun (items, rest) => (.oneOf wanted items, rest)

/-- Reads a pattern; `skip` characters of it are read already. -/
def ofChars : Nat → List PatternChar → List Symbol
  | _, [] => []
  | skip + 1, _ :: cs => ofChars skip cs
  | 0, p :: cs =>
    if p.isBare '*' then .anyText :: ofChars 0 cs
    else if p.isBare '?' then .anyChar :: ofChars 0 cs
    else if p.isBare '[' then
      match readClass cs with
      | some (symbol, rest) => symbol :: ofChars (cs.length - rest.length) cs
      | none => .char '[' :: ofChars 0 cs
    else .char p.char :: ofChars 0 cs

/-- Stands for this character. -/
def admits (s : Symbol) (c : Char) : Bool :=
  match s with
  | anyText | anyChar => true
  | char d => c == d
  | oneOf wanted items => items.any (·.holds c) == wanted

end Symbol

/-- The text matches the pattern from end to end. -/
def isMatch : List Symbol → List Char → Bool
  | [], cs => cs.isEmpty
  | .anyText :: ps, [] => isMatch ps []
  | .anyText :: ps, c :: cs => isMatch ps (c :: cs) || isMatch (.anyText :: ps) cs
  | _ :: _, [] => false
  | p :: ps, c :: cs => p.admits c && isMatch ps cs
termination_by ps cs => ps.length + cs.length

/-- The text without a beginning that matches, the longest or the shortest. -/
def withoutFront (longest : Bool) (pattern : List Symbol) (cs : List Char) : List Char :=
  let lengths := List.range (cs.length + 1)
  let lengths := if longest then lengths.reverse else lengths
  match lengths.find? fun n => isMatch pattern (cs.take n) with
  | some n => cs.drop n
  | none => cs

/-- The text without an end that matches, the longest or the shortest. -/
def withoutBack (longest : Bool) (pattern : List Symbol) (cs : List Char) : List Char :=
  let lengths := List.range (cs.length + 1)
  let lengths := if longest then lengths else lengths.reverse
  match lengths.find? fun n => isMatch pattern (cs.drop n) with
  | some n => cs.take n
  | none => cs

end Overseer.Rehearsal.Shell
