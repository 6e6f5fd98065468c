/-
Overseer.Rehearsal.Shell.Arithmetic — whole numbers in scripts.

Operators bind in levels, and those of one level from left to right. Numbers
have 64 bits with sign and wrap around. What is not chosen by a condition is
read but has no effect. Fuel counts the operators and parentheses that are
opened; an expression has no more of them than tokens.
-/
import Overseer.Rehearsal.Shell.Digits
import Overseer.Rehearsal.Shell.Values
import Overseer.Text.Decimal
import Overseer.Word

namespace Overseer.Rehearsal.Shell.Arithmetic

/-! ## 1. Numbers -/

/-- The nearest number of 64 bits with sign. -/
def saturate (i : Int) : Int := max (Word.least 64) (min (Word.greatest 64) i)

/-- Blank characters may stand around numbers. -/
def isBlank (c : Char) : Bool := c == ' ' || (decide ('\t' ≤ c) && decide (c ≤ '\r'))

/-- The number that a value spells; nothing at all is zero. -/
def number? (text : String) : Option Int :=
  let (negative, digits) := Text.splitSign (text.toList.dropWhile isBlank)
  let (n, length) := leadingLiteral digits
  let value : Int := if negative then -n else n
  if (digits.drop length).all isBlank && saturate value == value then some value else none

/-- The number that decimal digits spell, if it has no more than 64 bits. -/
def decimal? (text : String) : Option Int :=
  let body := ((text.toList.dropWhile isBlank).reverse.dropWhile isBlank).reverse
  (Text.decimal? body).filter fun n => saturate n == n

/-! ## 2. Tokens -/

/-- A number, a name or an operator. -/
inductive Token where
  | number (n : Int)
  | name (text : String)
  | operator (text : String)
  /-- Nothing that is known. -/
  | unknown
deriving DecidableEq, Repr

/-- Every operator, longer ones first. -/
def operators : List String :=
  ["<<=", ">>=", "||", "&&", "==", "!=", "<=", ">=", "<<", ">>", "+=", "-=", "*=", "/=", "%=",
   "&=", "|=", "^=", "<", ">", "+", "-", "*", "/", "%", "&", "|", "^", "(", ")", "!", "~", "?",
   ":", "="]

/-- Cuts an expression into tokens, up to what is unknown. -/
def tokens : Nat → List Char → List Token
  | 0, _ => []
  | fuel + 1, cs =>
    match cs with
    | [] => []
    | c :: rest =>
      if c = ' ' ∨ c = '\t' ∨ c = '\n' then tokens fuel rest
      else if c.isDigit then
        let (n, length) := leadingLiteral cs
        .number (saturate n) :: tokens fuel (cs.drop length)
      else if isNameStart c then
        let name := cs.takeWhile isNameChar
        .name (String.ofList name) :: tokens fuel (cs.drop name.length)
      else match operators.find? fun o => o.toList.isPrefixOf cs with
        | some text => .operator text :: tokens fuel (cs.drop text.length)
        | none => [.unknown]

/-! ## 3. Evaluation -/

/-- Why an expression has no value. -/
inductive Fault where
  | expected (what : String)
  | zeroDivisor
  /-- Something in words of its own. -/
  | other (text : String)
deriving DecidableEq, Repr

/-- The cause in words. -/
def Fault.message (expression : String) : Fault → String
  | .expected what => s!"arithmetic expression: expecting {what}: \"{expression}\""
  | .zeroDivisor => s!"arithmetic expression: division by zero: \"{expression}\""
  | .other text => text

/-- An expression that is being evaluated: what is left of it. -/
structure Sum where
  rest : List Token
  values : Values

/-- Evaluation, which may set variables. -/
abbrev Evaluating := StateT Sum (Except Fault)

/-- A number of 64 bits with sign. -/
def wrap (i : Int) : Int := Word.wrap 64 i

/-- One for yes and zero for no. -/
def truth (b : Bool) : Int := if b then 1 else 0

/-- An operation on the bits of two numbers. -/
def bitwise (f : BitVec 64 → BitVec 64 → BitVec 64) (a b : Int) : Int :=
  (f (BitVec.ofInt 64 a) (BitVec.ofInt 64 b)).toInt

/-- The operators of each level, those that bind most first. -/
def levels : List (List String) :=
  [["*", "/", "%"], ["+", "-"], ["<<", ">>"], ["<", "<=", ">", ">="], ["==", "!="], ["&"], ["^"],
   ["|"]]

/-- The level of an operator between two values. -/
def level? (operator : String) : Option Nat := levels.findIdx? (·.contains operator)

/-- What an operator gives. -/
def apply (operator : String) (a b : Int) : Except Fault Int :=
  let shift := (b % 64).toNat
  match operator with
  | "==" => .ok (truth (a == b))
  | "!=" => .ok (truth (a != b))
  | "<=" => .ok (truth (decide (a ≤ b)))
  | ">=" => .ok (truth (decide (b ≤ a)))
  | "<" => .ok (truth (decide (a < b)))
  | ">" => .ok (truth (decide (b < a)))
  | "+" => .ok (wrap (a + b))
  | "-" => .ok (wrap (a - b))
  | "*" => .ok (wrap (a * b))
  | "/" => if b = 0 then .error .zeroDivisor else .ok (wrap (Int.tdiv a b))
  | "%" => if b = 0 then .error .zeroDivisor else .ok (Int.tmod a b)
  | "<<" => .ok (wrap (a * Nat.pow 2 shift))
  | ">>" => .ok (Int.fdiv a (Nat.pow 2 shift))
  | "&" => .ok (bitwise (· &&& ·) a b)
  | "|" => .ok (bitwise (· ||| ·) a b)
  | _ => .ok (bitwise (· ^^^ ·) a b)

/-- The next token. -/
def peek? : Evaluating (Option Token) := do return (← get).rest.head?

/-- Takes the next token. -/
def skip : Evaluating Unit := modify fun s => { s with rest := s.rest.tail }

/-- A number, a name or an expression in parentheses is missing. -/
def refuseOperand {α : Type} : Evaluating α := throw (.expected "primary")

/-- Takes an operator that has to come next. -/
def expect (operator label : String) : Evaluating Unit := do
  if (← peek?) = some (.operator operator) then skip else throw (.expected label)

/-- Gives a variable a value. -/
def assignTo (name : String) (n : Int) : Evaluating Unit := do
  match (← get).values.assign name (toString n) with
  | .ok values => modify fun s => { s with values }
  | .error why => throw (.other why)

/-- The value of a variable as a number. -/
def valueOf (name : String) : Evaluating Int := do
  let text := ((← get).values.get? name).getD ""
  match number? text with
  | some n => return n
  | none => throw (.other s!"Illegal number: {text}")

mutual

/-- An expression that may set a variable; it has no effect unless it is `live`. -/
def assignment : Nat → Bool → Evaluating Int
  | 0, _ => refuseOperand
  | fuel + 1, live => do
    match (← get).rest with
    | .name name :: .operator sign :: _ =>
      let operator := (sign.dropEnd 1).toString
      if sign.endsWith "=" && (operator.isEmpty || (level? operator).isSome)
          && (level? sign).isNone then
        skip
        skip
        let value ← assignment fuel live
        if !live then return value
        let value ← if operator.isEmpty then pure value
          else apply operator (← valueOf name) value
        assignTo name value
        return value
      else choice fuel live
    | _ => choice fuel live

/-- An expression that may choose between two. -/
def choice : Nat → Bool → Evaluating Int
  | 0, _ => refuseOperand
  | fuel + 1, live => do
    let a ← disjunction fuel live
    if (← peek?) ≠ some (.operator "?") then return a
    skip
    let b ← assignment fuel (live && a != 0)
    expect ":" "':'"
    let c ← choice fuel (live && a == 0)
    return if a != 0 then b else c

/-- Expressions of which one has to hold. -/
def disjunction : Nat → Bool → Evaluating Int
  | 0, _ => refuseOperand
  | fuel + 1, live => do
    let a ← conjunction fuel live
    if (← peek?) ≠ some (.operator "||") then return a
    skip
    let b ← disjunction fuel (live && a == 0)
    return truth (a != 0 || b != 0)

/-- Expressions that all have to hold. -/
def conjunction : Nat → Bool → Evaluating Int
  | 0, _ => refuseOperand
  | fuel + 1, live => do
    let a ← operand fuel live
    let a ← goOn fuel live levels.length a
    if (← peek?) ≠ some (.operator "&&") then return a
    skip
    let b ← conjunction fuel (live && a != 0)
    return truth (a != 0 && b != 0)

/-- Goes on behind a value with operators that bind more than a level. -/
def goOn : Nat → Bool → Nat → Int → Evaluating Int
  | 0, _, _, a => return a
  | fuel + 1, live, bound, a => do
    match ← peek? with
    | some (.operator text) =>
      match (level? text).filter (· < bound) with
      | none => return a
      | some level =>
        skip
        let b ← operand fuel live
        let b ← goOn fuel live level b
        let value ← if live then apply text a b else pure b
        goOn fuel live bound value
    | _ => return a

/-- A number, a name or an expression in parentheses. -/
def operand : Nat → Bool → Evaluating Int
  | 0, _ => refuseOperand
  | fuel + 1, live => do
    match ← peek? with
    | some (.number n) =>
      skip
      return n
    | some (.name name) =>
      skip
      if live then valueOf name else return 0
    | some (.operator "(") =>
      skip
      let a ← assignment fuel live
      expect ")" "')'"
      return a
    | some (.operator "+") =>
      skip
      operand fuel live
    | some (.operator "-") =>
      skip
      return wrap (-(← operand fuel live))
    | some (.operator "!") =>
      skip
      return truth ((← operand fuel live) == 0)
    | some (.operator "~") =>
      skip
      return -1 - (← operand fuel live)
    | _ => refuseOperand

end

/-- The value of an expression, and the variables with what it set. -/
def evaluate (values : Values) (expression : String) : Except String (Int × Values) :=
  let start : Sum := ⟨tokens (expression.length + 1) expression.toList, values⟩
  let whole : Evaluating Int := do
    let n ← assignment (8 * (start.rest.length + 4)) true
    if (← peek?).isSome then throw (.expected "EOF")
    return n
  match whole.run start with
  | .error fault => .error (fault.message expression)
  | .ok (n, s) => .ok (n, s.values)

end Overseer.Rehearsal.Shell.Arithmetic
