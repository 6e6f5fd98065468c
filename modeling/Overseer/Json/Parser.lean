/-
Overseer.Json.Parser — from text to documents.

The text is first cut into tokens, one character at a time; a word is the
longest run of characters that neither separate nor quote, and has to be a
number or one of the three names. The tokens are then read one at a time with
a stack of the lists and objects that are still open, so any depth of nesting
is read. A document is all of the text: nothing but blanks may follow it.
-/
import Overseer.Json.Quoted

namespace Overseer.Json

/-! ## 1. Words -/

/-- One or more digits. -/
def isDigits (cs : List Char) : Bool := !cs.isEmpty && cs.all Char.isDigit

/-- The value of digits. -/
def digitsValue (cs : List Char) : Nat := cs.foldl (fun n c => 10 * n + (c.toNat - 48)) 0

/-- Digits after an `e` and a sign. -/
def isExponent : List Char → Bool
  | '+' :: ds | '-' :: ds => isDigits ds
  | ds => isDigits ds

/-- What may follow the integral part of a number. -/
def isFraction : List Char → Bool
  | 'e' :: ds | 'E' :: ds => isExponent ds
  | '.' :: ds =>
    isDigits (ds.takeWhile Char.isDigit) &&
      match ds.dropWhile Char.isDigit with
      | [] => true
      | 'e' :: es | 'E' :: es => isExponent es
      | _ => false
  | _ => false

/-- A number; the negative zero is no integer. -/
def number? (word : List Char) : Option Value :=
  let negative := word.head? == some '-'
  let body := if negative then word.tail else word
  let digits := body.takeWhile Char.isDigit
  let rest := body.dropWhile Char.isDigit
  if !isDigits digits || (digits.head? == some '0' && digits.length > 1) then none
  else if rest.isEmpty && !(negative && digits == ['0']) then
    some (.int (if negative then -(digitsValue digits : Int) else digitsValue digits))
  else if rest.isEmpty || isFraction rest then some (.real (String.ofList word))
  else none

/-- The value that a word stands for. -/
def word? (word : List Char) : Option Value :=
  if word = ['n', 'u', 'l', 'l'] then some .null
  else if word = ['t', 'r', 'u', 'e'] then some (.bool true)
  else if word = ['f', 'a', 'l', 's', 'e'] then some (.bool false)
  else number? word

/-! ## 2. Tokens -/

/-- Where in a token the reader is; what it has read of it is kept backwards. -/
inductive Mode where
  | between
  | word (done : List Char)
  | quoted (done : List Char) (escaped : Bool)

/-- A blank between tokens. -/
def isGap (c : Char) : Bool := c == ' ' || c == '\t' || c == '\n' || c == '\r'

/-- The token that is one character. -/
def mark? (c : Char) : Option Token :=
  if c = '[' then some .openList
  else if c = ']' then some .closeList
  else if c.toNat = 0x7b then some .openObject
  else if c.toNat = 0x7d then some .closeObject
  else if c = ':' then some .colon
  else if c = ',' then some .comma
  else none

/-- Ends a word. -/
def isDelimiter (c : Char) : Bool := isGap c || c == '"' || (mark? c).isSome

/-- What a character means between tokens: the token that it is, and what it opens. -/
def enter (c : Char) : List Token × Mode :=
  if isGap c then ([], .between)
  else if c = '"' then ([], .quoted [] false)
  else match mark? c with
    | some t => ([t], .between)
    | none => ([], .word [c])

/-- The tokens of a text. -/
def lex : Mode → List Char → Option (List Token)
  | .between, [] => some []
  | .word done, [] => do return [.atom (← word? done.reverse)]
  | .quoted _ _, [] => none
  | .between, c :: cs =>
    let (tokens, mode) := enter c
    match tokens with
    | [] => lex mode cs
    | t :: _ => do return t :: (← lex mode cs)
  | .word done, c :: cs =>
    if isDelimiter c then do
      let v ← word? done.reverse
      let (tokens, mode) := enter c
      return .atom v :: tokens ++ (← lex mode cs)
    else lex (.word (c :: done)) cs
  | .quoted done true, c :: cs => lex (.quoted (c :: done) false) cs
  | .quoted done false, c :: cs =>
    if c = '"' then do
      let s ← unescape? done.reverse
      return .str s :: (← lex .between cs)
    else if c.toNat < 32 then none
    else lex (.quoted (c :: done) (c == '\\')) cs

/-! ## 3. Documents -/

/-- A list or an object that is still open; what it holds is kept backwards. -/
inductive Frame where
  | items (done : List Value)
  | fields (done : List (Label × Value)) (key : Label)

/-- What has to come next. -/
inductive Await where
  | value
  | itemOrClose
  | keyOrClose (done : List (Label × Value))
  | key (done : List (Label × Value))
  | colon (done : List (Label × Value)) (key : Label)
  | separator (v : Value)

/-- A value begins here. -/
def beginValue (stack : List Frame) : Token → Option (Await × List Frame)
  | .openList => some (.itemOrClose, stack)
  | .openObject => some (.keyOrClose [], stack)
  | .str s => some (.separator (.str s), stack)
  | .atom v => some (.separator v, stack)
  | _ => none

/-- Reads one token. -/
def step : Await × List Frame → Token → Option (Await × List Frame)
  | (.value, stack), t => beginValue stack t
  | (.itemOrClose, stack), .closeList => some (.separator (.arr []), stack)
  | (.itemOrClose, stack), t => beginValue (.items [] :: stack) t
  | (.keyOrClose _, stack), .closeObject => some (.separator (.obj []), stack)
  | (.keyOrClose done, stack), .str key => some (.colon done key, stack)
  | (.key done, stack), .str key => some (.colon done key, stack)
  | (.colon done key, stack), .colon => some (.value, .fields done key :: stack)
  | (.separator v, .items done :: stack), .comma => some (.value, .items (v :: done) :: stack)
  | (.separator v, .items done :: stack), .closeList =>
    some (.separator (.arr (v :: done).reverse), stack)
  | (.separator v, .fields done key :: stack), .comma => some (.key ((key, v) :: done), stack)
  | (.separator v, .fields done key :: stack), .closeObject =>
    some (.separator (.obj ((key, v) :: done).reverse), stack)
  | _, _ => none

/-- The document that tokens spell. -/
def ofTokens? (tokens : List Token) : Option Value :=
  match tokens.foldlM step (.value, []) with
  | some (.separator v, []) => some v
  | _ => none

/-- The document that a text spells. -/
def parse? (text : String) : Option Value := (lex .between text.toList).bind ofTokens?

end Overseer.Json
