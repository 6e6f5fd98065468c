/-
Overseer.Rehearsal.Programs.Answers — programs whose arguments say it all.

What such a program writes is a function of its arguments: parts of paths, the
values of expressions, and numbers in order.
-/
import Overseer.Rehearsal.Programs.Digest
import Overseer.Rehearsal.Programs.Order
import Overseer.Rehearsal.Programs.Regex

namespace Overseer.Rehearsal

/-! ## 1. Parts of paths -/

/-- The last part of a path, without an ending if that is not all of it. -/
def lastPart (path ending : String) : String :=
  match (Text.fields (· == '/') path.toList).getLast? with
  | none => if path.isEmpty then "" else "/"
  | some part =>
    if ending.toList.isSuffixOf part && ending.length < part.length then
      String.ofList (part.take (part.length - ending.length))
    else String.ofList part

/-- A path without its last part. -/
def frontPart (path : String) : String :=
  let strip (cs : List Char) : List Char := (cs.reverse.dropWhile (· == '/')).reverse
  let body := strip path.toList
  let front := (body.reverse.dropWhile (· != '/')).reverse
  if path.toList.all (· == '/') then (if path.isEmpty then "." else "/")
  else if front.isEmpty then "."
  else if (strip front).isEmpty then "/"
  else String.ofList (strip front)

/-- The last part of a path, without an ending. -/
def baseName (args : List String) : Except Refusal Outcome :=
  match args with
  | [] => refuseArguments "basename" "missing operand" 1
  | [path] => .ok (answerLines [lastPart path ""])
  | [path, ending] => .ok (answerLines [lastPart path ending])
  | _ :: _ :: extra :: _ => refuseArguments "basename" s!"extra operand '{extra}'" 1

/-- Paths without their last parts. -/
def directoryNames (args : List String) : Except Refusal Outcome :=
  if args.isEmpty then refuseArguments "dirname" "missing operand" 1
  else .ok (answerLines (args.map frontPart))

/-! ## 2. Expressions -/

namespace Expression

/-- Why an expression has no value. -/
inductive Fault where
  | missingOperand
  | missingAfter (word : String)
  | unexpected (word : String)
  | unclosed (word : String)
  | noInteger
  | zeroDivisor
  | regex (fault : Regex.Fault)

/-- The cause in words. -/
def Fault.refusal : Fault → Refusal
  | .missingOperand => ⟨["expr: missing operand", helpHint "expr"], 2⟩
  | .missingAfter word => ⟨[s!"expr: syntax error: missing argument after '{word}'"], 2⟩
  | .unexpected word => ⟨[s!"expr: syntax error: unexpected argument '{word}'"], 2⟩
  | .unclosed word => ⟨[s!"expr: syntax error: expecting ')' after '{word}'"], 2⟩
  | .noInteger => ⟨["expr: non-integer argument"], 2⟩
  | .zeroDivisor => ⟨["expr: division by zero"], 2⟩
  | .regex fault => ⟨[s!"expr: {fault.message}"], 2⟩

/-- Reading an expression: the word read last, and those that are left. -/
abbrev Reading := StateT (String × List String) (Except Fault)

/-- Counts as no. -/
def isNull (text : String) : Bool :=
  let digits := if text.startsWith "-" then text.toList.tail else text.toList
  text.isEmpty || (!digits.isEmpty && digits.all (· == '0'))

/-- The integer that a text is. -/
def integer? (text : String) : Option Int :=
  if text.startsWith "+" then none else Text.decimal? text.toList

/-- The integer that a text has to be. -/
def integer (text : String) : Reading Int :=
  match integer? text with
  | some n => return n
  | none => throw .noInteger

/-- Takes the next word. -/
def next : Reading String := do
  match ← get with
  | (last, []) => throw (.missingAfter last)
  | (_, word :: rest) =>
    set (word, rest)
    return word

/-- Takes the next word if it is one of some. -/
def nextOf? (words : List String) : Reading (Option String) := do
  match ← get with
  | (_, word :: rest) =>
    if words.contains word then
      set (word, rest)
      return some word
    else return none
  | _ => return none

/-- What a text matches of an expression from its beginning on. -/
def matchText (text pattern : String) : Reading String := do
  match Regex.ofText false pattern with
  | .error fault => throw (.regex fault)
  | .ok r =>
    let grouped := (pattern.splitOn "\\(").length > 1
    match Regex.longest? r ⟨none, text.toList, [], []⟩ with
    | none => return if grouped then "" else "0"
    | some p =>
      return if grouped then String.ofList ((p.groups.lookup 1).getD [])
        else toString p.passed.length

/-- The operators between two values, those that bind least first. -/
def levels : List (List String) :=
  [["|"], ["&"], ["<", "<=", "=", "==", "!=", ">=", ">"], ["+", "-"], ["*", "/", "%"], [":"]]

/-- What an operator gives. -/
def apply (operator a b : String) : Reading String := do
  let truth (b : Bool) : String := if b then "1" else "0"
  let order := match integer? a, integer? b with
    | some x, some y => compare x y
    | _, _ => Order.compareChars a.toList b.toList
  match operator with
  | "|" => return if !isNull a then a else if !isNull b then b else "0"
  | "&" => return if isNull a || isNull b then "0" else a
  | "<" => return truth (order == .lt)
  | "<=" => return truth (order != .gt)
  | "=" | "==" => return truth (order == .eq)
  | "!=" => return truth (order != .eq)
  | ">=" => return truth (order != .lt)
  | ">" => return truth (order == .gt)
  | ":" => matchText a b
  | _ =>
    let x ← integer a
    let y ← integer b
    match operator with
    | "+" => return toString (x + y)
    | "-" => return toString (x - y)
    | "*" => return toString (x * y)
    | _ =>
      if y = 0 then throw .zeroDivisor
      return toString (if operator == "/" then Int.tdiv x y else Int.tmod x y)

mutual

/-- The value of an expression with the operators of some levels. -/
def value : Nat → List (List String) → Reading String
  | 0, _ => throw .missingOperand
  | fuel + 1, [] => operand fuel
  | fuel + 1, level :: deeper => do
    let a ← value fuel deeper
    goOn fuel level deeper a

/-- Goes on behind a value. -/
def goOn : Nat → List String → List (List String) → String → Reading String
  | 0, _, _, a => return a
  | fuel + 1, level, deeper, a => do
    match ← nextOf? level with
    | none => return a
    | some operator =>
      let b ← value fuel deeper
      goOn fuel level deeper (← apply operator a b)

/-- A word or an expression in parentheses. -/
def operand : Nat → Reading String
  | 0 => throw .missingOperand
  | fuel + 1 => do
    let word ← next
    match word with
    | "(" =>
      let a ← value fuel levels
      match ← nextOf? [")"] with
      | some _ => return a
      | none => throw (.unclosed (← get).1)
    | ")" => throw (.unexpected ")")
    | _ => return word

end

/-- The value of an expression. -/
def evaluate (args : List String) : Except Refusal Outcome :=
  let args := if args.head? == some "--" then args.tail else args
  if args.isEmpty then .error Fault.missingOperand.refusal
  else match (value (32 * (args.length + 2)) levels).run ("", args) with
    | .error fault => .error fault.refusal
    | .ok (_, (_, word :: _)) => .error (Fault.unexpected word).refusal
    | .ok (a, _) => .ok { answerLines [a] with code := if isNull a then 1 else 0 }

end Expression

/-! ## 3. Numbers in order -/

/-- Numbers from one to another. -/
def sequence (args : List String) : Except Refusal Outcome := do
  let (wide, operands) := match args with
    | "-w" :: operands => (true, operands)
    | operands => (false, operands)
  let invalid (text : String) : Except Refusal Outcome :=
    refuseArguments "seq" s!"invalid floating point argument: '{text}'" 1
  match decimals? operands with
  | none => invalid ((operands.find? fun a => (decimals? [a]).isNone).getD "")
  | some d =>
    let one : Int := Nat.pow 10 d.places
    let write (first step last : Int) : Except Refusal Outcome :=
      let count := if step = 0 then 0 else (Int.fdiv (last - first) step + 1).toNat
      let texts := (List.range count).map fun (n : Nat) => placesText d.places (first + step * n)
      let width := (texts.map String.length).foldl max 0
      let fill (t : String) : String := if wide then "".pushn '0' (width - t.length) ++ t else t
      .ok (answerLines (texts.map fill))
    match d.numbers with
    | [] => refuseArguments "seq" "missing operand" 1
    | [last] => write one one last
    | [first, last] => write first one last
    | [first, step, last] => write first step last
    | _ => refuseArguments "seq" ("extra operand '" ++ operands.getD 3 "" ++ "'") 1

/-- The outcome of a program whose arguments say it all, if it is one. -/
def answerOf? (name : String) (args : List String) : Option Outcome :=
  let outcome (r : Except Refusal Outcome) : Option Outcome :=
    match r with
    | .ok o => some o
    | .error refusal => some refusal.outcome
  match name with
  | "true" => some ⟨[], [], 0⟩
  | "false" => some ⟨[], [], 1⟩
  | "basename" => outcome (baseName args)
  | "dirname" => outcome (directoryNames args)
  | "expr" => outcome (Expression.evaluate args)
  | "seq" => outcome (sequence args)
  | _ => none

end Overseer.Rehearsal
