/-
Overseer.Rehearsal.Programs.Condition — conditions on texts, numbers and files.

A condition is read from left to right: alternatives of conjunctions of
conditions that may be negated. Whether a word is an operator depends on what
stands around it; with three words the one in the middle decides.
-/
import Overseer.Rehearsal.Programs.Basic

namespace Overseer.Rehearsal.Condition

/-- What a word is. -/
inductive Kind where
  | operand
  | unary
  | binary
  | negation
  | conjunction
  | alternative
  | opening
  | closing
  | nothing
deriving DecidableEq, Repr

/-- The operators in front of an operand. -/
def unaryOperators : List String :=
  ["-r", "-w", "-x", "-e", "-f", "-d", "-c", "-b", "-p", "-u", "-g", "-k", "-s", "-t", "-z", "-n",
   "-h", "-O", "-G", "-L", "-S"]

/-- The operators between operands. -/
def binaryOperators : List String :=
  ["=", "!=", "<", ">", "-eq", "-ne", "-ge", "-gt", "-le", "-lt", "-nt", "-ot", "-ef"]

/-- The operator that a word may be. -/
def kindOf (word : String) : Kind :=
  if unaryOperators.contains word then .unary
  else if binaryOperators.contains word then .binary
  else match word with
    | "!" => .negation
    | "-a" => .conjunction
    | "-o" => .alternative
    | "(" => .opening
    | ")" => .closing
    | _ => .operand

/-- What the first of some words is. -/
def kindAt (words : List String) : Kind :=
  match words with
  | [] => .nothing
  | [word] => if kindOf word = .unary ∨ kindOf word = .opening then .operand else kindOf word
  | word :: next :: rest =>
    if kindOf word = .unary ∧ kindOf next = .binary ∧ !rest.isEmpty then .operand else kindOf word

/-- Reading a condition: what is left of its words, beginning with the one that is read. -/
abbrev Reading := StateT (List String) (Except String)

/-- Moves on by some words. -/
def move (n : Nat) : Reading Unit := modify (·.drop n)

/-- The condition cannot be understood. -/
def refuse {α : Type} (text : String) : Reading α := fun _ => .error text

/-- The number that an operand is. -/
def number (text : String) : Reading Int := do
  match Shell.Arithmetic.decimal? text with
  | some n => return n
  | none => refuse s!"Illegal number: {text}"

/-- A condition on one operand. -/
def unary (tree : FileTree) (operator operand : String) : Reading Bool :=
  let path := pathOf operand
  let isDevice : Bool := match tree.lookup path with
    | .ok (.file _ .device) => true
    | _ => false
  match operator with
  | "-z" => return operand.isEmpty
  | "-n" => return !operand.isEmpty
  | "-t" => do
    let _ ← number operand
    return false
  | "-e" | "-r" | "-w" | "-O" | "-G" => return tree.exists? path
  | "-f" => return tree.isFile path
  | "-d" => return tree.isDirectory path
  | "-c" => return isDevice
  | "-h" | "-L" => return (tree.link? path).isSome
  | "-s" => return match tree.lookup path with
    | .ok (.directory _) => true
    | .ok (.file _ content) => !content.bytes.isEmpty || tree.canRun path
    | _ => false
  | "-x" => return tree.isDirectory path || match tree.lookup path with
    | .ok (.file names _) => tree.canRun (FileTree.placeOf names)
    | _ => false
  | _ => return false

/-- A condition on two operands. -/
def binary (tree : FileTree) (operator a b : String) : Reading Bool := do
  let numbers (f : Int → Int → Bool) : Reading Bool := do
    let x ← number a
    return f x (← number b)
  match operator with
  | "=" => return a == b
  | "!=" => return a != b
  | "<" => return decide (a < b)
  | ">" => return decide (b < a)
  | "-eq" => numbers fun x y => x == y
  | "-ne" => numbers fun x y => x != y
  | "-ge" => numbers fun x y => decide (y ≤ x)
  | "-gt" => numbers fun x y => decide (y < x)
  | "-le" => numbers fun x y => decide (x ≤ y)
  | "-lt" => numbers fun x y => decide (x < y)
  | "-ef" =>
    let place (text : String) : Option (List (List Char)) :=
      match tree.lookup (pathOf text) with
      | .ok (.directory names) | .ok (.file names _) => some names
      | _ => none
    return (place a).isSome && place a == place b
  | "-nt" => return tree.exists? (pathOf a) && !tree.exists? (pathOf b)
  | _ => return tree.exists? (pathOf b) && !tree.exists? (pathOf a)

mutual

/-- Alternatives; the kind of the first word is known. -/
def alternatives (tree : FileTree) : Nat → Kind → Reading Bool
  | 0, _ => return false
  | fuel + 1, kind => do
    let a ← conjunctions tree fuel kind
    if kindAt (← get).tail ≠ .alternative then return a
    move 2
    let b ← alternatives tree fuel (kindAt (← get))
    return a || b

/-- Conditions that all have to hold. -/
def conjunctions (tree : FileTree) : Nat → Kind → Reading Bool
  | 0, _ => return false
  | fuel + 1, kind => do
    let a ← negations tree fuel kind
    if kindAt (← get).tail ≠ .conjunction then return a
    move 2
    let b ← conjunctions tree fuel (kindAt (← get))
    return a && b

/-- A condition that may be negated. -/
def negations (tree : FileTree) : Nat → Kind → Reading Bool
  | 0, _ => return false
  | fuel + 1, kind => do
    if kind ≠ .negation then primary tree fuel kind
    else
      let next := kindAt (← get).tail
      if next ≠ .nothing then move 1
      return !(← negations tree fuel next)

/-- A single condition, or one in parentheses; its last word is read at the end. -/
def primary (tree : FileTree) : Nat → Kind → Reading Bool
  | 0, _ => return false
  | fuel + 1, kind => do
    match kind, ← get with
    | .nothing, _ | _, [] => return false
    | .opening, _ =>
      move 1
      let next := kindAt (← get)
      if next = .closing then return false
      let a ← alternatives tree fuel next
      move 1
      if kindAt (← get) ≠ .closing then refuse "closing paren expected"
      return a
    | .unary, operator :: rest =>
      match rest with
      | [] => refuse s!"{operator}: argument expected"
      | operand :: _ =>
        move 1
        unary tree operator operand
    | _, [operand] => return !operand.isEmpty
    | _, a :: operator :: rest =>
      if kindAt (operator :: rest) = .binary then
        match rest with
        | [] => refuse s!"{operator}: argument expected"
        | b :: _ =>
          move 2
          binary tree operator a b
      else return !a.isEmpty

end

/-- Evaluates a condition whose first word is of a kind. -/
def evaluateAs (tree : FileTree) (kind : Kind) (words : List String) : Except String Bool := do
  let (a, rest) ← (alternatives tree (4 * words.length + 8) kind).run words
  match rest with
  | word :: _ :: _ => .error s!"{word}: unexpected operator"
  | _ => .ok a

/-- Evaluates a condition, or says why it cannot be understood. -/
def evaluate (tree : FileTree) (words : List String) : Except String Bool :=
  match words with
  | [] => .ok false
  | [a, operator, b] =>
    if kindOf operator = .binary then evaluateAs tree .operand words
    else if a = "(" ∧ b = ")" then evaluateAs tree (kindAt [operator]) [operator]
    else if a = "!" then (evaluateAs tree (kindAt [operator, b]) [operator, b]).map (!·)
    else evaluateAs tree (kindAt words) words
  | [a, b, c, d] =>
    if a = "(" ∧ d = ")" then evaluateAs tree (kindAt [b, c]) [b, c]
    else if a = "!" then (evaluate tree [b, c, d]).map (!·)
    else evaluateAs tree (kindAt words) words
  | _ => evaluateAs tree (kindAt words) words

end Overseer.Rehearsal.Condition
