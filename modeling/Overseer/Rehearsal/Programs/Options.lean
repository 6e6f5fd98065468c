/-
Overseer.Rehearsal.Programs.Options — what programs are told.

Options are letters behind a dash, several of them together if they want; some take a
value. They may stand between the operands. Times, sets of characters, signals and
numbers are read here as well.
-/
import Overseer.Process.Signal
import Overseer.Rehearsal.Shell.Format
import Overseer.Rehearsal.Shell.Pattern

namespace Overseer.Rehearsal

/-! ## 1. Options -/

/-- The options that a program knows. -/
structure OptionSet where
  flags : List Char
  /-- Letters behind which a value comes. -/
  valued : List Char
  /-- Options may stand behind operands as well. -/
  anywhere : Bool

/-- The options and operands that a program was given. -/
structure Given where
  options : List (Char × String)
  operands : List String

namespace Given

/-- An option was given. -/
def has (g : Given) (c : Char) : Bool := g.options.any (·.1 == c)

/-- The value of an option; the last one counts. -/
def value? (g : Given) (c : Char) : Option String :=
  (g.options.reverse.find? (·.1 == c)).map (·.2)

/-- All values of an option. -/
def values (g : Given) (c : Char) : List String :=
  (g.options.filter (·.1 == c)).map (·.2)

end Given

/-- Why options cannot be read. -/
inductive OptionFault where
  | unknown (c : Char)
  | unknownWord (text : String)
  | valueMissing (c : Char)
deriving DecidableEq, Repr

/-- The cause in words. -/
def OptionFault.message : OptionFault → String
  | .unknown c => "invalid option -- '" ++ String.singleton c ++ "'"
  | .unknownWord text => "unrecognized option '" ++ text ++ "'"
  | .valueMissing c => "option requires an argument -- '" ++ String.singleton c ++ "'"

namespace OptionSet

/-- Reads letters that stand together; `next` is the argument behind them. Tells
whether that was used as a value. -/
def readCluster (s : OptionSet) (next : Option String) :
    List Char → Except OptionFault (List (Char × String) × Bool)
  | [] => .ok ([], false)
  | c :: rest =>
    if s.flags.contains c then do
      let (more, used) ← readCluster s next rest
      return ((c, "") :: more, used)
    else if s.valued.contains c then
      if !rest.isEmpty then .ok ([(c, String.ofList rest)], false)
      else match next with
        | some value => .ok ([(c, value)], true)
        | none => .error (.valueMissing c)
    else .error (.unknown c)

/-- Reads arguments; `skip` of them are used up already. -/
def read (s : OptionSet) : Nat → List String → Except OptionFault Given
  | _, [] => .ok ⟨[], []⟩
  | skip + 1, _ :: rest => read s skip rest
  | 0, arg :: rest =>
    if arg = "--" then .ok ⟨[], rest⟩
    else if arg.startsWith "-" && arg != "-" then do
      if arg.startsWith "--" then throw (.unknownWord arg)
      let (options, used) ← s.readCluster rest.head? arg.toList.tail
      let given ← read s (if used then 1 else 0) rest
      return { given with options := options ++ given.options }
    else if s.anywhere then do
      let given ← read s 0 rest
      return { given with operands := arg :: given.operands }
    else .ok ⟨[], arg :: rest⟩

end OptionSet

/-- Options that may stand anywhere. -/
def optionSet (flags valued : String) : OptionSet := ⟨flags.toList, valued.toList, true⟩

/-- Options that stand in front of the operands. -/
def frontOptions (flags valued : String) : OptionSet := ⟨flags.toList, valued.toList, false⟩

/-! ## 2. Values -/

/-- A time in milliseconds, such as `0.5` or `2m`. -/
def duration? (text : String) : Option Nat :=
  let cs := text.toList
  let (cs, unit) := match cs.getLast? with
    | some 's' => (cs.dropLast, 1000)
    | some 'm' => (cs.dropLast, 60000)
    | some 'h' => (cs.dropLast, 3600000)
    | some 'd' => (cs.dropLast, 86400000)
    | _ => (cs, 1000)
  let whole := cs.takeWhile Char.isDigit
  let digits := (cs.drop whole.length).tail
  if cs == "infinity".toList || cs == "inf".toList then some 1000000000000
  else if (whole.isEmpty && digits.isEmpty) || !digits.all Char.isDigit
      || (cs.drop whole.length).head?.any (· != '.') then none
  else
    let value := Text.digitsAfter 0 (whole ++ digits) * unit
    let scale := Nat.pow 10 digits.length
    some ((value + scale - 1) / scale)

/-- The characters that a set names: ranges and escapes are resolved. -/
def characterSet (text : String) : List Char :=
  let (octets, _) := Shell.Dialect.builtin.unescape 0 text.toList
  go 0 (spelled octets).toList
where
  /-- Resolves ranges; `skip` characters are resolved already. -/
  go : Nat → List Char → List Char
    | _, [] => []
    | skip + 1, _ :: rest => go skip rest
    | 0, c :: rest =>
      match rest with
      | '-' :: last :: _ =>
        (List.range (last.toNat + 1 - c.toNat)).map (fun n => Char.ofNat (c.toNat + n))
          ++ go 2 rest
      | _ => c :: go 0 rest

/-- The number of a signal that has no name of its own but is counted from the first. -/
def realTimeSignal? (name : String) : Option Nat :=
  let offset (text : String) : Option Nat :=
    if text.isEmpty then some 0 else (text.toNat?).filter (· ≤ 15)
  if name == "RTMIN" then some 34
  else if name == "RTMAX" then some 64
  else if name.startsWith "RTMIN+" then (offset (name.drop 6).toString).map (34 + ·)
  else if name.startsWith "RTMAX-" then (offset (name.drop 6).toString).map (64 - ·)
  else none

/-- The signal that a number or a name means; number 0 is a shell's own end. -/
def signalOf? (text : String) : Option Signal :=
  let upper := String.ofList (text.toList.map Char.toUpper)
  match text.toNat? with
  | some n => if n ≤ 64 then some ⟨n⟩ else none
  | none =>
    if upper == "EXIT" then some ⟨0⟩
    else
      let short := if upper.startsWith "SIG" then (upper.drop 3).toString else upper
      match realTimeSignal? short with
      | some n => some ⟨n⟩
      | none => Signal.ofName? upper

/-- The short name of a signal. -/
def signalName (number : Nat) : String :=
  if number = 0 then "EXIT"
  else if number = 34 then "RTMIN"
  else if number = 64 then "RTMAX"
  else if 34 < number ∧ number < 50 then s!"RTMIN+{number - 34}"
  else if 50 ≤ number ∧ number < 64 then s!"RTMAX-{64 - number}"
  else ((Signal.name ⟨number⟩).drop 3).toString

/-- Numbers with as many digits behind the point as any of them has. -/
structure Decimals where
  numbers : List Int
  places : Nat

/-- Reads numbers that may have a point. -/
def decimals? (texts : List String) : Option Decimals := do
  let parts ← texts.mapM fun text =>
    let (negative, cs) := Text.splitSign text.toList
    let whole := cs.takeWhile Char.isDigit
    match cs.drop whole.length with
    | [] => if whole.isEmpty then none else some (negative, whole, [])
    | '.' :: digits =>
      if (whole.isEmpty && digits.isEmpty) || !digits.all Char.isDigit then none
      else some (negative, whole, digits)
    | _ => none
  let places := (parts.map fun p => p.2.2.length).foldl max 0
  return ⟨parts.map fun (negative, whole, digits) =>
    let n := Text.digitsAfter 0 (whole ++ digits ++ List.replicate (places - digits.length) '0')
    if negative then -(n : Int) else n, places⟩

/-- A number with a point in front of its last digits. -/
def placesText (places : Nat) (n : Int) : String :=
  let digits := toString n.natAbs
  let digits := String.ofList (List.replicate (places + 1 - digits.length) '0') ++ digits
  let split := digits.length - places
  (if n < 0 then "-" else "") ++ (digits.take split).toString
    ++ if places = 0 then "" else "." ++ (digits.drop split).toString

end Overseer.Rehearsal
