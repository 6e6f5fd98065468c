/-
Overseer.Rehearsal.Programs.Lines — lines that are taken, ordered, joined and shown.

Each program here turns the lines of its files into others: the first ones, in order, without
those that are the same, cut into columns, side by side, broken or turned around.
-/
import Overseer.Rehearsal.Programs.Digest
import Overseer.Rehearsal.Programs.Order

namespace Overseer.Rehearsal

/-! ## 1. Parts and counts -/

/-- Takes the first lines or octets of its files, and reads no more of them than that. -/
def taker (args : List String) : Except Refusal Digest := do
  let args := match args with
    | arg :: rest =>
      match arg.toList with
      | '-' :: c :: _ => if c.isDigit then "-n" :: (arg.drop 1).toString :: rest else args
      | _ => args
    | [] => []
  let given ← readOptions "head" (optionSet "q" "nc") args 1
  let octets := given.has 'c'
  let value := ((given.value? 'c').or (given.value? 'n')).getD "10"
  match value.toNat? with
  | none =>
    let what := if octets then "bytes" else "lines"
    .error ⟨[s!"head: invalid number of {what}: '{value}'"], 1⟩
  | some n =>
    let part (cs : List Char) : List Char :=
      if octets then cs.take n else ((linesOf cs).take n).flatMap TextLine.full
    .ok { eachFile "head" given.operands part with
      isEnough := fun cs => n ≤ if octets then cs.length else cs.count '\n' }

/-- Counts lines, words and octets of its files. -/
def counter (args : List String) : Except Refusal Digest := do
  let given ← readOptions "wc" (optionSet "lwc" "") args 1
  let shows (c : Char) : Bool := given.options.isEmpty || given.has c
  .ok (allFiles "wc" given.operands fun cs =>
    let words := (Text.fields Shell.Arithmetic.isBlank cs).length
    let numbers := (if shows 'l' then [cs.count '\n'] else [])
      ++ (if shows 'w' then [words] else [])
      ++ if shows 'c' then [cs.length] else []
    let width := if numbers.length = 1 then 1 else 7
    withNewline ([' '].intercalate (numbers.map (padded width))))

/-! ## 2. Characters -/

/-- Exchanges or drops characters of the input. -/
def exchanger (args : List String) : Except Refusal Digest := do
  let given ← readOptions "tr" (frontOptions "d" "") args 1
  match given.has 'd', given.operands with
  | true, [old] =>
    let dropped := characterSet old
    .ok (allFiles "tr" [] fun cs => cs.filter fun c => !dropped.contains c)
  | false, [old, new] =>
    let (first, second) := (characterSet old, characterSet new)
    let filled := second ++ List.replicate (first.length - second.length) (second.getLastD ' ')
    .ok (allFiles "tr" [] fun cs => cs.map fun c => ((first.zip filled).lookup c).getD c)
  | _, _ => refuseArguments "tr" "missing operand" 1

/-- How a character is shown that cannot be printed. -/
def shownChar (c : Char) : List Char :=
  let n := c.toNat
  let low (n : Nat) : List Char :=
    if n < 32 then ['^', Char.ofNat (n + 64)]
    else if n = 127 then ['^', '?']
    else [Char.ofNat n]
  if n < 128 then low n else 'M' :: '-' :: low (n - 128)

/-- Writes files one after the other: with numbers, without empty lines that follow each other,
or with marks for what cannot be seen. -/
def shower (given : Given) : Digest :=
  allFiles "cat" given.operands fun cs =>
    let all := given.has 'A'
    let char (c : Char) : List Char :=
      if c = '\t' then (if all then ['^', 'I'] else [c])
      else if all || given.has 'v' then shownChar c else [c]
    let isRepeated (lines : List TextLine) (l : TextLine) : Bool :=
      l.text.isEmpty && lines.head?.any fun before => before.text.isEmpty
    let lines := if given.has 's' then
        let add (done : List TextLine) (l : TextLine) : List TextLine :=
          if isRepeated done l then done else l :: done
        ((linesOf cs).foldl add []).reverse
      else linesOf cs
    (lines.zipIdx 1).flatMap fun (line, n) =>
      (if given.has 'n' then padded 6 n ++ ['\t'] else []) ++ line.text.flatMap char
        ++ (if all && line.ended then ['$'] else []) ++ if line.ended then ['\n'] else []

/-! ## 3. Lines -/

/-- Puts the lines of all files in order. -/
def sorter (args : List String) : Except Refusal Digest := do
  let given ← readOptions "sort" (optionSet "nru" "tk") args 2
  let keys ← (given.values 'k').mapM fun text =>
    match Order.readKey? text with
    | some key => .ok key
    | none => .error (Refusal.mk [s!"sort: invalid field specification '{text}'"] 2)
  let rule : Order.Rule := {
    keys
    manner := .ofLetters (given.options.map (·.1))
    separator := (given.value? 't').bind (·.toList.head?) }
  .ok (allFiles "sort" given.operands fun cs =>
    let sorted := rule.sort (lineTexts cs)
    (if given.has 'u' then sorted.eraseReps else sorted).flatMap withNewline)

/-- Lines that follow each other and are the same, with their number. -/
def sameLines : List (List Char) → List (List Char × Nat)
  | [] => []
  | line :: rest =>
    match sameLines rest with
    | [] => [(line, 1)]
    | (next, count) :: more =>
      if line == next then (line, count + 1) :: more else (line, 1) :: (next, count) :: more

/-- Keeps one of lines that are the same. -/
def uniquer (args : List String) : Except Refusal Digest := do
  let given ← readOptions "uniq" (optionSet "cdu" "") args 1
  .ok (eachFile "uniq" given.operands fun cs =>
    let groups := (sameLines (lineTexts cs)).filter fun g =>
      (!given.has 'd' || decide (1 < g.2)) && (!given.has 'u' || g.2 == 1)
    groups.flatMap fun g =>
      (if given.has 'c' then padded 7 g.2 ++ [' '] else []) ++ withNewline g.1)

/-- The places that a list such as `1,3-5` names; the last one may be open. -/
def ranges? (text : String) : Option (List (Nat × Option Nat)) :=
  (Text.fields (· == ',') text.toList).mapM fun part =>
    let low := part.takeWhile Char.isDigit
    let number (cs : List Char) : Nat := Text.digitsAfter 0 cs
    match part.drop low.length with
    | [] => some (number low, some (number low))
    | '-' :: high =>
      if !high.all Char.isDigit || (low.isEmpty && high.isEmpty) then none
      else some (if low.isEmpty then 1 else number low,
        if high.isEmpty then none else some (number high))
    | _ => none

/-- Cuts columns out of lines. -/
def cutter (args : List String) : Except Refusal Digest := do
  let given ← readOptions "cut" (optionSet "s" "dfcb") args 1
  let list? := given.options.find? fun o => o.1 == 'f' || o.1 == 'c' || o.1 == 'b'
  match list?.map fun o => (o.1, ranges? o.2) with
  | none => refuseArguments "cut" "you must specify a list of bytes, characters, or fields" 1
  | some (_, none) => refuseArguments "cut" "invalid list" 1
  | some (kind, some ranges) =>
    let wanted (i : Nat) : Bool :=
      ranges.any fun r => decide (r.1 ≤ i + 1) && r.2.all (i + 1 ≤ ·)
    let pick {α : Type} (xs : List α) : List α :=
      (xs.zipIdx.filter fun x => wanted x.2).map (·.1)
    let delimiter := ((given.value? 'd').bind (·.toList.head?)).getD '\t'
    .ok (eachFile "cut" given.operands fun cs => (lineTexts cs).flatMap fun line =>
      if kind != 'f' then withNewline (pick line)
      else if !line.contains delimiter then (if given.has 's' then [] else withNewline line)
      else withNewline ([delimiter].intercalate (pick (Text.pieces (· == delimiter) line))))

/-- Joins the lines of each file. -/
def paster (args : List String) : Except Refusal Digest := do
  let given ← readOptions "paste" (optionSet "s" "d") args 1
  let delimiter := ((given.value? 'd').bind (·.toList.head?)).getD '\t'
  .ok (eachFile "paste" given.operands fun cs =>
    if given.has 's' then withNewline ([delimiter].intercalate (lineTexts cs)) else cs)

/-- The pieces of a line that are not too long; `fuel` bounds their number. -/
def brokenAt (width : Nat) : Nat → List Char → List (List Char)
  | 0, cs => [cs]
  | fuel + 1, cs =>
    if cs.length ≤ width then [cs] else cs.take width :: brokenAt width fuel (cs.drop width)

/-- Breaks lines that are too long. -/
def folder (args : List String) : Except Refusal Digest := do
  let given ← readOptions "fold" (optionSet "" "w") args 1
  let width := max 1 (((given.value? 'w').bind String.toNat?).getD 80)
  .ok (eachFile "fold" given.operands fun cs => (linesOf cs).flatMap fun line =>
    ['\n'].intercalate (brokenAt width (line.text.length + 1) line.text)
      ++ if line.ended then ['\n'] else [])

/-- Turns each line around. -/
def reverser (args : List String) : Except Refusal Digest :=
  .ok (eachFile "rev" args fun cs =>
    (linesOf cs).flatMap fun l => { l with text := l.text.reverse }.full)

/-- Writes lines from the last to the first. -/
def backwards (args : List String) : Except Refusal Digest :=
  .ok (eachFile "tac" args fun cs => (linesOf cs).reverse.flatMap TextLine.full)

end Overseer.Rehearsal
