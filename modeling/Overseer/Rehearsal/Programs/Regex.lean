/-
Overseer.Rehearsal.Programs.Regex — regular expressions of line tools.

There are two spellings: in the basic one, parentheses, braces and some signs
are special behind a backslash, in the extended one they are special without it.
Of all matches the leftmost counts, and of those the longest.
-/
import Overseer.Rehearsal.Shell.Pattern

namespace Overseer.Rehearsal

open Shell (ClassItem PatternChar Symbol)

/-- A regular expression. -/
inductive Regex where
  | empty
  | char (c : Char)
  | any
  | oneOf (wanted : Bool) (items : List ClassItem)
  | lineStart
  | lineEnd
  | group (number : Nat) (body : Regex)
  | both (first second : Regex)
  | either (first second : Regex)
  | repeated (least : Nat) (most : Option Nat) (body : Regex)
deriving Repr

namespace Regex

/-! ## 1. Reading -/

/-- Why an expression cannot be read. -/
inductive Fault where
  | unmatchedParenthesis
  | unmatchedClosing
  | unmatchedBracket
  /-- Nothing at all stands in a class. -/
  | noClass
  | badKind
  | badRange
  | badBrace
  | unmatchedBrace
  | nothingToRepeat
  | trailingBackslash
deriving DecidableEq, Repr

/-- The cause in words. -/
def Fault.message : Fault → String
  | .unmatchedParenthesis => "Unmatched ( or \\("
  | .unmatchedClosing => "Unmatched ) or \\)"
  | .unmatchedBracket => "Unmatched [, [^, [:, [., or [="
  | .noClass => "Invalid regular expression"
  | .badKind => "Invalid character class name"
  | .badRange => "Invalid range end"
  | .badBrace => "Invalid content of \\\x7b\\\x7d"
  | .unmatchedBrace => "Unmatched \\\x7b"
  | .nothingToRepeat => "Invalid preceding regular expression"
  | .trailingBackslash => "Trailing backslash"

/-- A sign of an expression. -/
inductive Sign where
  | literal (c : Char)
  | special (c : Char)
  /-- A class in brackets. -/
  | set (wanted : Bool) (items : List ClassItem)
deriving DecidableEq, Repr

/-- Signs that are special without a backslash in the extended spelling and with
one in the basic spelling. -/
def switched : List Char := ['(', ')', '\x7b', '\x7d', '|', '+', '?']

/-- Reads a class behind its opening bracket. -/
def readSet (cs : List Char) : Except Fault (Sign × List Char) :=
  let (wanted, cs) := match cs with
    | '^' :: rest => (false, rest)
    | _ => (true, cs)
  let isUnknown : ClassItem → Bool
    | .kind name => !ClassItem.kinds.any (·.1 == name)
    | .range .. => false
  let isBackwards : ClassItem → Bool
    | .kind _ => false
    | .range first last => decide (last < first)
  match Symbol.readItems (cs.length + 1) true (cs.map fun c => PatternChar.mk c false) with
  | some (items, rest) =>
    if items.any isUnknown then .error .badKind
    else if items.any isBackwards then .error .badRange
    else .ok (.set wanted items, rest.map (·.char))
  | none => .error (if cs.isEmpty then .noClass else .unmatchedBracket)

/-- Cuts an expression into signs. -/
def signs (extended : Bool) : Nat → List Char → Except Fault (List Sign)
  | 0, _ => .ok []
  | fuel + 1, cs =>
    match cs with
    | [] => .ok []
    | ['\\'] => .error .trailingBackslash
    | '\\' :: c :: rest => do
      let more ← signs extended fuel rest
      let sign : Sign :=
        if switched.contains c then (if extended then .literal c else .special c)
        else if c = 'n' then .literal '\n'
        else .literal c
      return sign :: more
    | '[' :: rest => do
      let (set, rest) ← readSet rest
      return set :: (← signs extended fuel rest)
    | c :: rest => do
      let more ← signs extended fuel rest
      let isSpecial := ['.', '*', '^', '$'].contains c || (extended && switched.contains c)
      return (if isSpecial then .special c else .literal c) :: more

/-- Reads the bounds of a repetition behind the opening brace. -/
def readBounds (ss : List Sign) : Except Fault ((Nat × Option Nat) × List Sign) :=
  let inside := (ss.takeWhile (· != .special '\x7d')).filterMap fun
    | .literal c => some c
    | _ => none
  let number (cs : List Char) : Nat := cs.foldl (fun n c => 10 * n + (c.toNat - 48)) 0
  let low := inside.takeWhile Char.isDigit
  match ss.drop inside.length with
  | .special '\x7d' :: rest =>
    match inside.drop low.length with
    | [] => if low.isEmpty then .error .badBrace else .ok ((number low, some (number low)), rest)
    | ',' :: high =>
      if !high.all Char.isDigit then .error .badBrace
      else if high.isEmpty then .ok ((number low, none), rest)
      else if number high < number low then .error .badBrace
      else .ok ((number low, some (number high)), rest)
    | _ => .error .badBrace
  | _ => .error .unmatchedBrace

/-- What is left to read, and how many groups were opened. -/
structure Rest where
  signs : List Sign
  groups : Nat

/-- Reading an expression. -/
abbrev Reading := StateT Rest (Except Fault)

/-- The next sign. -/
def peek? : Reading (Option Sign) := do return (← get).signs.head?

/-- Takes the next sign. -/
def skip : Reading Unit := modify fun r => { r with signs := r.signs.tail }

mutual

/-- Reads expressions of which one has to match. -/
def readEither (extended : Bool) : Nat → Reading Regex
  | 0 => return .empty
  | fuel + 1 => do
    let first ← readBoth extended fuel true .empty
    match ← peek? with
    | some (.special '|') =>
      skip
      return .either first (← readEither extended fuel)
    | _ => return first

/-- Reads expressions that match one after the other, behind those that were read. -/
def readBoth (extended : Bool) : Nat → Bool → Regex → Reading Regex
  | 0, _, done => return done
  | fuel + 1, first, done => do
    let goOn (r : Regex) : Reading Regex := do
      let r ← readRepeats extended fuel r
      readBoth extended fuel false (.both done r)
    match (← get).signs with
    | [] => return done
    | .special '|' :: _ => return done
    | .special ')' :: _ => return done
    | .literal c :: _ =>
      skip
      goOn (.char c)
    | .set wanted items :: _ =>
      skip
      goOn (.oneOf wanted items)
    | .special '.' :: _ =>
      skip
      goOn .any
    | .special '^' :: _ =>
      skip
      if extended || first then readBoth extended fuel first (.both done .lineStart)
      else goOn (.char '^')
    | .special '$' :: rest =>
      skip
      let ends := match rest with
        | [] | .special '|' :: _ | .special ')' :: _ => true
        | _ => false
      if extended || ends then readBoth extended fuel false (.both done .lineEnd)
      else goOn (.char '$')
    | .special '(' :: _ =>
      skip
      let number := (← get).groups + 1
      modify fun r => { r with groups := number }
      let body ← readEither extended fuel
      match ← peek? with
      | some (.special ')') =>
        skip
        goOn (.group number body)
      | _ => throw .unmatchedParenthesis
    | .special c :: _ =>
      skip
      if c = '\x7d' then goOn (.char c)
      else if extended && !first then throw .nothingToRepeat
      else if extended then readBoth extended fuel first done
      else if c = '\x7b' then throw .nothingToRepeat
      else goOn (.char c)

/-- Reads how often an expression is repeated. -/
def readRepeats (extended : Bool) : Nat → Regex → Reading Regex
  | 0, r => return r
  | fuel + 1, r => do
    match ← peek? with
    | some (.special '*') =>
      skip
      readRepeats extended fuel (.repeated 0 none r)
    | some (.special '+') =>
      skip
      readRepeats extended fuel (.repeated 1 none r)
    | some (.special '?') =>
      skip
      readRepeats extended fuel (.repeated 0 (some 1) r)
    | some (.special '\x7b') =>
      skip
      let ((least, most), rest) ← StateT.lift (readBounds (← get).signs)
      modify fun r => { r with signs := rest }
      readRepeats extended fuel (.repeated least most r)
    | _ => return r

end

/-- Reads an expression. -/
def ofText (extended : Bool) (text : String) : Except Fault Regex := do
  let ss ← signs extended text.length text.toList
  let (r, rest) ← (readEither extended (4 * ss.length + 4)).run ⟨ss, 0⟩
  match rest.signs with
  | [] => return r
  | _ => throw .unmatchedClosing

/-! ## 2. Matching -/

/-- A place in a line: the character before it, what follows, how many
characters were passed since the match began, and what groups matched. -/
structure Place where
  before : Option Char
  rest : List Char
  passed : List Char
  groups : List (Nat × List Char)

/-- Moves on by a character. -/
def Place.advance (p : Place) : Option Place :=
  match p.rest with
  | [] => none
  | c :: rest => some { p with before := some c, rest, passed := c :: p.passed }

/-- Where matches of an expression end that begin at a place. -/
def ends : Nat → Regex → Place → List Place
  | 0, _, _ => []
  | fuel + 1, r, p =>
    let holds (b : Bool) : List Place := if b then [p] else []
    let next (f : Char → Bool) : List Place :=
      match p.rest with
      | c :: _ => if f c then p.advance.toList else []
      | [] => []
    match r with
    | .empty => [p]
    | .char c => next (· == c)
    | .any => next fun _ => true
    | .oneOf wanted items =>
      next fun c => (items.any fun i => i.holds c) == wanted
    | .lineStart => holds p.before.isNone
    | .lineEnd => holds p.rest.isEmpty
    | .group number body =>
      let already := p.passed.length
      (ends fuel body p).map fun q =>
        { q with groups := (number, (q.passed.take (q.passed.length - already)).reverse)
            :: q.groups.filter (·.1 != number) }
    | .both first second => (ends fuel first p).flatMap fun q => ends fuel second q
    | .either first second => ends fuel first p ++ ends fuel second p
    | .repeated least most body =>
      let stop := if least = 0 then [p] else []
      if most = some 0 then stop
      else
        let once := (ends fuel body p).filter fun q =>
          q.passed.length != p.passed.length || least != 0
        let further := once.flatMap fun q =>
          ends fuel (.repeated (least - 1) (most.map (· - 1)) body) q
        further ++ stop

/-- How many expressions stand in an expression. -/
def size : Regex → Nat
  | .group _ body | .repeated _ _ body => body.size + 1
  | .both first second | .either first second => first.size + second.size + 1
  | _ => 1

/-- The longest match that begins at a place. -/
def longest? (r : Regex) (p : Place) : Option Place :=
  (ends (r.size * (p.rest.length + 2) + r.size + 100) r p).foldl (fun best? q =>
    match best? with
    | some best => if best.passed.length < q.passed.length then some q else some best
    | none => some q) none

/-- A match in a line: what stands before it, what it is, what groups matched
and what follows. -/
structure Hit where
  front : List Char
  text : List Char
  groups : List (Nat × List Char)
  rest : List Char

/-- The first match behind a character; `front` holds what was passed over, latest first. -/
def find? (r : Regex) (before : Option Char) (front : List Char) :
    List Char → Option Hit
  | [] =>
    (longest? r ⟨before, [], [], []⟩).map fun p =>
      ⟨front.reverse, p.passed.reverse, p.groups, p.rest⟩
  | c :: cs =>
    match longest? r ⟨before, c :: cs, [], []⟩ with
    | some p => some ⟨front.reverse, p.passed.reverse, p.groups, p.rest⟩
    | none => find? r (some c) (c :: front) cs

/-- The line holds a match. -/
def holds (r : Regex) (line : List Char) : Bool := (r.find? none [] line).isSome

/-- All matches in a line, one after the other; at most so many. -/
def hits (r : Regex) : Nat → Option Char → List Char → List Hit
  | 0, _, _ => []
  | fuel + 1, before, line =>
    match r.find? before [] line with
    | none => []
    | some hit =>
      let last := (hit.text.getLast?).or ((hit.front.getLast?).or before)
      if hit.text.isEmpty then
        match hit.rest with
        | [] => [hit]
        | c :: rest =>
          hit :: (hits r fuel (some c) rest).mapIdx fun i next =>
            if i = 0 then { next with front := c :: next.front } else next
      else hit :: hits r fuel last hit.rest

end Regex

end Overseer.Rehearsal
